import BoltLoad.Task.Basic

/-! The destination of one attempt and the temporary file it writes into. -/

namespace BoltLoad

/-- `DOWNLOADING_TMP_EXTENSION`. -/
def downloadingTmpExtension : String := ".downloading"

/-- The temporary path of a destination. -/
def tmpPathFor (dest : Path) : Path := dest ++ downloadingTmpExtension

structure OutputFile where
  dest : Path
  tmp : Path
  deriving DecidableEq, Repr

namespace OutputFile

def new (dest : Path) : OutputFile := ⟨dest, tmpPathFor dest⟩

end OutputFile

/-- The temporary path always differs from its destination: it is longer. -/
theorem tmpPathFor_ne (dest : Path) : tmpPathFor dest ≠ dest := by
  intro same
  have longer := congrArg String.length same
  rw [tmpPathFor, String.length_append] at longer
  have extension : downloadingTmpExtension.length = 12 := rfl
  omega

end BoltLoad

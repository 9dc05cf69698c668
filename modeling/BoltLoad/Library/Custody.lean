import Mathlib

/-! Tickets that are handed on. Each ticket issued is held in one place until it is told the
end, once; nothing is held or told that was not issued. What a family of parties holds
together is the sum over the parties.
-/

universe u v

namespace Custody

/-- What a family of parties holds together. -/
def total {Party : Type u} [Fintype Party] {Phase : Type v} (measure : Phase → Nat)
    (phases : Party → Phase)
    : Nat :=
  ∑ party, measure (phases party)

section Totals

variable {Party : Type u} [Fintype Party] {Phase : Type v} {measure : Phase → Nat}
  {phases : Party → Phase}

theorem le_total (measure : Phase → Nat) (phases : Party → Phase) (party : Party)
    : measure (phases party) ≤ total measure phases :=
  Finset.single_le_sum (fun other _ => Nat.zero_le (measure (phases other)))
    (Finset.mem_univ party)

theorem total_eq_zero
    : total measure phases = 0 ↔ ∀ party, measure (phases party) = 0 := by
  simp only [total, Finset.sum_eq_zero_iff, Finset.mem_univ, true_implies]

/-- Once one party goes on, it holds something else and the others what they did. -/
theorem total_update [DecidableEq Party] (measure : Phase → Nat) (phases : Party → Phase)
    (party : Party) (phase : Phase)
    : total measure (Function.update phases party phase) + measure (phases party)
      = total measure phases + measure phase := by
  have others
      : ∑ other ∈ Finset.univ.erase party, measure (Function.update phases party phase other)
        = ∑ other ∈ Finset.univ.erase party, measure (phases other) := by
    refine Finset.sum_congr rfl (fun other apart => ?_)
    rw [Function.update_of_ne (Finset.ne_of_mem_erase apart)]
  have before := Finset.add_sum_erase Finset.univ (fun other => measure (phases other))
    (Finset.mem_univ party)
  have after := Finset.add_sum_erase Finset.univ
    (fun other => measure (Function.update phases party phase other)) (Finset.mem_univ party)
  simp only [Function.update_self, others] at after
  simp only [total]
  omega

/-- Where one measure is below another, it is so for each party and for the rest of them. -/
theorem total_add_le {less : Phase → Nat} (below : ∀ phase, less phase ≤ measure phase)
    (phases : Party → Phase) (party : Party)
    : total less phases + measure (phases party)
      ≤ total measure phases + less (phases party) := by
  have rest
      : total (fun phase => measure phase - less phase) phases + total less phases
        = total measure phases := by
    simp only [total, ← Finset.sum_add_distrib, Nat.sub_add_cancel (below _)]
  have one := le_total (fun phase => measure phase - less phase) phases party
  have here := below (phases party)
  omega

end Totals

section Lists

variable {Held : Type u} {measure : Held → Nat} {places : List Held} {index : Nat} {held : Held}

/-- One place less holds its measure less. -/
theorem sum_eraseIdx (is : places[index]? = some held)
    : ((places.eraseIdx index).map measure).sum + measure held = (places.map measure).sum := by
  obtain ⟨inside, same⟩ := List.getElem?_eq_some_iff.mp is
  have moved := ((List.getElem_cons_eraseIdx_perm inside).map measure).sum_eq
  rw [List.map_cons, List.sum_cons, same] at moved
  omega

/-- Another holder in one place. -/
theorem sum_set {other : Held} (is : places[index]? = some held)
    : ((places.set index other).map measure).sum + measure held
      = (places.map measure).sum + measure other := by
  obtain ⟨inside, same⟩ := List.getElem?_eq_some_iff.mp is
  have erased : (places.set index other).eraseIdx index = places.eraseIdx index :=
    List.eraseIdx_set_eq
  have before : ((places.eraseIdx index).map measure).sum + measure held
      = (places.map measure).sum :=
    sum_eraseIdx is
  have after : (((places.set index other).eraseIdx index).map measure).sum + measure other
      = ((places.set index other).map measure).sum :=
    sum_eraseIdx (List.getElem?_set_self inside)
  rw [erased] at after
  omega

end Lists

/-- How often a list of holders holds a ticket. -/
def counted {Held : Type u} (tickets : Held → List Nat) (places : List Held) (ticket : Nat)
    : Nat :=
  (places.map (fun held => (tickets held).count ticket)).sum

section Counts

variable {Held : Type u} {tickets : Held → List Nat} {places : List Held} {index : Nat}
  {held : Held}

@[simp] theorem counted_nil (ticket : Nat)
    : counted tickets [] ticket = 0 :=
  rfl

@[simp] theorem counted_cons (ticket : Nat)
    : counted tickets (held :: places) ticket
      = (tickets held).count ticket + counted tickets places ticket :=
  List.sum_cons

@[simp] theorem counted_concat (ticket : Nat)
    : counted tickets (places ++ [held]) ticket
      = counted tickets places ticket + (tickets held).count ticket := by
  simp only [counted, List.map_append, List.sum_append, List.map_cons, List.map_nil,
    List.sum_cons, List.sum_nil, Nat.add_zero]

theorem counted_eraseIdx (is : places[index]? = some held) (ticket : Nat)
    : counted tickets (places.eraseIdx index) ticket + (tickets held).count ticket
      = counted tickets places ticket :=
  sum_eraseIdx is

theorem counted_set {other : Held} (is : places[index]? = some held) (ticket : Nat)
    : counted tickets (places.set index other) ticket + (tickets held).count ticket
      = counted tickets places ticket + (tickets other).count ticket :=
  sum_set is

theorem counted_pos {ticket : Nat} (inside : held ∈ places) (holds : ticket ∈ tickets held)
    : 0 < counted tickets places ticket :=
  Nat.lt_of_lt_of_le (List.count_pos_iff.mpr holds)
    (List.single_le_sum (fun _ _ => Nat.zero_le _) _ (List.mem_map_of_mem inside))

/-- A ticket held once has one holder, by induction on the places. -/
theorem counted_unique {ticket : Nat} {other : Held}
    (once : counted tickets places ticket ≤ 1) (first : held ∈ places) (second : other ∈ places)
    (holds : ticket ∈ tickets held) (holds' : ticket ∈ tickets other)
    : held = other := by
  induction places with
  | nil => cases first
  | cons place places ih =>
      rw [counted_cons] at once
      have count {holder : Held} (is : ticket ∈ tickets holder)
          : 0 < (tickets holder).count ticket :=
        List.count_pos_iff.mpr is
      rcases List.mem_cons.mp first with rfl | later
      · rcases List.mem_cons.mp second with rfl | after
        · rfl
        · have here := count holds
          have there := counted_pos after holds'
          omega
      · rcases List.mem_cons.mp second with rfl | after
        · have here := count holds'
          have there := counted_pos later holds
          omega
        · exact ih (Nat.le_of_add_left_le once) later after

/-- A ticket held alone. -/
theorem count_singleton (issued ticket : Nat)
    : [issued].count ticket = if ticket = issued then 1 else 0 := by
  by_cases same : ticket = issued
  · rw [if_pos same, same, List.count_singleton_self]
  · rw [if_neg same, List.count_eq_zero]
    exact fun inside => same (List.mem_singleton.mp inside)

end Counts

end Custody

/-- Each of the first `issued` tickets is held or told, once; no other one is. -/
def Custody (issued : Nat) (held : Nat → Nat) (told : List Nat) : Prop :=
  ∀ ticket, held ticket + told.count ticket = if ticket < issued then 1 else 0

namespace Custody

variable {issued : Nat} {held later : Nat → Nat} {told : List Nat} {ticket : Nat}

theorem none
    : Custody 0 (fun _ => 0) [] :=
  fun _ => rfl

/-- No ticket is told twice. -/
theorem told_nodup (custody : Custody issued held told)
    : told.Nodup := by
  refine List.nodup_iff_count_le_one.mpr (fun ticket => ?_)
  have once := custody ticket
  split at once <;> omega

theorem lt_of_held (custody : Custody issued held told) (is : 0 < held ticket)
    : ticket < issued := by
  by_contra never
  have once := custody ticket
  rw [if_neg never] at once
  omega

theorem lt_of_told (custody : Custody issued held told) (is : ticket ∈ told)
    : ticket < issued := by
  by_contra never
  have once := custody ticket
  have counted := List.count_pos_iff.mpr is
  rw [if_neg never] at once
  omega

/-- A ticket that is held is not told yet. -/
theorem not_told (custody : Custody issued held told) (is : 0 < held ticket)
    : ticket ∉ told := by
  intro inside
  have once := custody ticket
  have counted := List.count_pos_iff.mpr inside
  split at once <;> omega

/-- A ticket nobody holds was told. -/
theorem told_of_unheld (custody : Custody issued held told) (inside : ticket < issued)
    (unheld : held ticket = 0)
    : ticket ∈ told := by
  have once := custody ticket
  rw [if_pos inside] at once
  exact List.count_pos_iff.mp (by omega)

/-- A ticket changes hands. -/
theorem moves (custody : Custody issued held told) (same : ∀ ticket, later ticket = held ticket)
    : Custody issued later told :=
  fun ticket => (same ticket) ▸ custody ticket

/-- The next ticket is issued to whoever holds it now. -/
theorem issues (custody : Custody issued held told)
    (more : ∀ ticket, later ticket = held ticket + if ticket = issued then 1 else 0)
    : Custody (issued + 1) later told := by
  intro ticket
  have once := custody ticket
  have now := more ticket
  split at now <;> split at once <;> split <;> omega

/-- The holder of a ticket tells it. -/
theorem tells {told' : List Nat} (custody : Custody issued held told)
    (less : ∀ ticket, later ticket + told'.count ticket = held ticket)
    : Custody issued later (told ++ told') := by
  intro ticket
  have once := custody ticket
  have now := less ticket
  rw [List.count_append]
  omega

end Custody

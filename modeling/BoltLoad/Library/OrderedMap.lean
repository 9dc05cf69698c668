import Mathlib

/-! Finite maps kept in key order, with the strict order of the keys carried as a field.
Lookup characterizes a map, and inserting or erasing an entry changes any sum over the
entries by that entry alone.
-/

universe u v

/-- A finite map as its list of entries in strictly increasing key order. -/
structure OrderedMap (Key : Type u) [LinearOrder Key] (Value : Type v) where
  entries : List (Key × Value)
  ordered : entries.Pairwise (fun left right => left.1 < right.1)

namespace OrderedMap

variable {Key : Type u} [LinearOrder Key] {Value : Type v}

/-- The map without entries. -/
def empty : OrderedMap Key Value := ⟨[], .nil⟩

instance : EmptyCollection (OrderedMap Key Value) := ⟨empty⟩

/-- The value stored under `key`. -/
def get? (map : OrderedMap Key Value) (key : Key) : Option Value :=
  (map.entries.find? (fun entry => entry.1 == key)).map Prod.snd

/-- Whether `key` has an entry. -/
def contains (map : OrderedMap Key Value) (key : Key) : Bool :=
  (map.get? key).isSome

/-- The keys in increasing order. -/
def keys (map : OrderedMap Key Value) : List Key := map.entries.map Prod.fst

/-- The values in the order of their keys. -/
def values (map : OrderedMap Key Value) : List Value := map.entries.map Prod.snd

/-- The number of entries. -/
def size (map : OrderedMap Key Value) : Nat := map.entries.length

/-- Place an entry at its position in an ordered list, replacing one with the same key. -/
def insertEntry (key : Key) (value : Value) : List (Key × Value) → List (Key × Value)
  | [] => [(key, value)]
  | head :: rest =>
      if key < head.1 then
        (key, value) :: head :: rest
      else if key = head.1 then
        (key, value) :: rest
      else
        head :: insertEntry key value rest

/-- An entry of the extended list is the placed one or an old one with another key. -/
theorem mem_insertEntry {key : Key} {value : Value} {entries : List (Key × Value)}
    (ordered : entries.Pairwise (fun left right => left.1 < right.1))
    {entry : Key × Value}
    : entry ∈ insertEntry key value entries
      ↔ entry = (key, value) ∨ entry ∈ entries ∧ entry.1 ≠ key := by
  induction entries with
  | nil => simp [insertEntry]
  | cons head rest ih =>
      obtain ⟨above, rest_ordered⟩ := List.pairwise_cons.mp ordered
      unfold insertEntry
      split_ifs with below same
      · have kept : ∀ other ∈ head :: rest, other.1 ≠ key := by
          intro other member
          rcases List.mem_cons.mp member with rfl | later
          · exact below.ne'
          · exact (below.trans (above other later)).ne'
        constructor
        · intro member
          rcases List.mem_cons.mp member with first | old
          · exact .inl first
          · exact .inr ⟨old, kept entry old⟩
        · rintro (first | ⟨old, -⟩)
          · exact first ▸ List.mem_cons_self
          · exact List.mem_cons_of_mem _ old
      · subst same
        constructor
        · intro member
          rcases List.mem_cons.mp member with first | later
          · exact .inl first
          · exact .inr ⟨List.mem_cons_of_mem _ later, (above entry later).ne'⟩
        · rintro (first | ⟨old, other⟩)
          · exact first ▸ List.mem_cons_self
          · rcases List.mem_cons.mp old with rfl | later
            · exact absurd rfl other
            · exact List.mem_cons_of_mem _ later
      · rw [List.mem_cons, ih rest_ordered, List.mem_cons]
        constructor
        · rintro (rfl | first | ⟨later, other⟩)
          · exact .inr ⟨.inl rfl, fun equal => same equal.symm⟩
          · exact .inl first
          · exact .inr ⟨.inr later, other⟩
        · rintro (first | ⟨rfl | later, other⟩)
          · exact .inr (.inl first)
          · exact .inl rfl
          · exact .inr (.inr ⟨later, other⟩)

/-- Placing an entry keeps the strict key order, by induction on the list. -/
theorem insertEntry_ordered (key : Key) (value : Value) {entries : List (Key × Value)}
    (ordered : entries.Pairwise (fun left right => left.1 < right.1))
    : (insertEntry key value entries).Pairwise (fun left right => left.1 < right.1) := by
  induction entries with
  | nil => exact List.pairwise_singleton _ _
  | cons head rest ih =>
      obtain ⟨above, rest_ordered⟩ := List.pairwise_cons.mp ordered
      unfold insertEntry
      split_ifs with below same
      · refine List.pairwise_cons.mpr ⟨?_, ordered⟩
        intro other member
        rcases List.mem_cons.mp member with rfl | later
        · exact below
        · exact below.trans (above other later)
      · exact List.pairwise_cons.mpr ⟨fun other later => same ▸ above other later, rest_ordered⟩
      · refine List.pairwise_cons.mpr ⟨?_, ih rest_ordered⟩
        intro other member
        rcases (mem_insertEntry rest_ordered).mp member with rfl | ⟨later, -⟩
        · exact lt_of_le_of_ne (not_lt.mp below) (fun equal => same equal.symm)
        · exact above other later

/-- Store `value` under `key`, replacing any earlier value. -/
def insert (map : OrderedMap Key Value) (key : Key) (value : Value)
    : OrderedMap Key Value :=
  ⟨insertEntry key value map.entries, insertEntry_ordered key value map.ordered⟩

/-- Drop the entry of `key`, if any. -/
def erase (map : OrderedMap Key Value) (key : Key) : OrderedMap Key Value :=
  ⟨map.entries.filter (fun entry => entry.1 != key), map.ordered.filter _⟩

/-- The last entry whose key lies strictly below `bound`. -/
def lastBelow (map : OrderedMap Key Value) (bound : Key) : Option (Key × Value) :=
  (map.entries.filter (fun entry => entry.1 < bound)).getLast?

-----------------------------------------------------------------------------------------
-- Lookup
-----------------------------------------------------------------------------------------

/-- In an ordered list an entry is determined by its key. -/
theorem eq_of_mem_of_key_eq {map : OrderedMap Key Value} {left right : Key × Value}
    (leftMember : left ∈ map.entries) (rightMember : right ∈ map.entries)
    (same : left.1 = right.1)
    : left = right := by
  have unique : map.entries.Pairwise (fun a b => a.1 = b.1 → a = b) :=
    map.ordered.imp (fun less equal => absurd equal less.ne)
  have flipped : map.entries.Pairwise (flip (fun a b => a.1 = b.1 → a = b)) :=
    map.ordered.imp (fun less equal => absurd equal less.ne')
  exact unique.forall_of_forall_of_flip (fun _ _ _ => rfl) flipped leftMember rightMember same

/-- Looking a key up finds exactly the value it is listed with. -/
theorem get?_eq_some_iff {map : OrderedMap Key Value} {key : Key} {value : Value}
    : map.get? key = some value ↔ (key, value) ∈ map.entries := by
  unfold get?
  constructor
  · intro found
    obtain ⟨entry, listed, rfl⟩ := Option.map_eq_some_iff.mp found
    have sameKey : entry.1 = key := by simpa using List.find?_some listed
    exact sameKey ▸ List.mem_of_find?_eq_some listed
  · intro member
    cases listed : map.entries.find? (fun entry => entry.1 == key) with
    | none => exact absurd (List.find?_eq_none.mp listed _ member) (by simp)
    | some entry =>
        have sameKey : entry.1 = key := by simpa using List.find?_some listed
        rw [eq_of_mem_of_key_eq (List.mem_of_find?_eq_some listed) member sameKey]
        rfl

theorem get?_eq_none_iff {map : OrderedMap Key Value} {key : Key}
    : map.get? key = none ↔ ∀ value, (key, value) ∉ map.entries := by
  rw [Option.eq_none_iff_forall_ne_some]
  exact forall_congr' (fun value => not_congr get?_eq_some_iff)

@[simp] theorem get?_empty (key : Key)
    : (∅ : OrderedMap Key Value).get? key = none :=
  rfl

@[simp] theorem get?_insert_self (map : OrderedMap Key Value) (key : Key) (value : Value)
    : (map.insert key value).get? key = some value :=
  get?_eq_some_iff.mpr ((mem_insertEntry map.ordered).mpr (.inl rfl))

theorem get?_insert_of_ne (map : OrderedMap Key Value) {key other : Key} (value : Value)
    (distinct : other ≠ key)
    : (map.insert key value).get? other = map.get? other := by
  apply Option.ext
  intro found
  rw [get?_eq_some_iff, get?_eq_some_iff]
  refine (mem_insertEntry map.ordered).trans ⟨?_, fun member => .inr ⟨member, distinct⟩⟩
  rintro (same | ⟨member, -⟩)
  · exact absurd (congrArg Prod.fst same) distinct
  · exact member

theorem get?_insert (map : OrderedMap Key Value) (key other : Key) (value : Value)
    : (map.insert key value).get? other = if other = key then some value else map.get? other := by
  split
  · rename_i same
    exact same ▸ get?_insert_self map _ value
  · rename_i distinct
    exact get?_insert_of_ne map value distinct

@[simp] theorem get?_erase_self (map : OrderedMap Key Value) (key : Key)
    : (map.erase key).get? key = none :=
  get?_eq_none_iff.mpr (fun value member => by simpa using (List.mem_filter.mp member).2)

theorem get?_erase_of_ne (map : OrderedMap Key Value) {key other : Key}
    (distinct : other ≠ key)
    : (map.erase key).get? other = map.get? other := by
  apply Option.ext
  intro found
  rw [get?_eq_some_iff, get?_eq_some_iff]
  refine List.mem_filter.trans ⟨And.left, fun member => ⟨member, ?_⟩⟩
  simpa using distinct

theorem get?_erase (map : OrderedMap Key Value) (key other : Key)
    : (map.erase key).get? other = if other = key then none else map.get? other := by
  split
  · rename_i same
    exact same ▸ get?_erase_self map _
  · rename_i distinct
    exact get?_erase_of_ne map distinct

/-- A key is listed exactly when its lookup succeeds. -/
theorem mem_keys_iff {map : OrderedMap Key Value} {key : Key}
    : key ∈ map.keys ↔ ∃ value, map.get? key = some value := by
  unfold keys
  rw [List.mem_map]
  constructor
  · rintro ⟨entry, member, rfl⟩
    exact ⟨entry.2, get?_eq_some_iff.mpr member⟩
  · rintro ⟨value, found⟩
    exact ⟨(key, value), get?_eq_some_iff.mp found, rfl⟩

/-- A value is listed exactly when some lookup finds it. -/
theorem mem_values_iff {map : OrderedMap Key Value} {value : Value}
    : value ∈ map.values ↔ ∃ key, map.get? key = some value := by
  unfold values
  rw [List.mem_map]
  constructor
  · rintro ⟨entry, member, rfl⟩
    exact ⟨entry.1, get?_eq_some_iff.mpr member⟩
  · rintro ⟨key, found⟩
    exact ⟨(key, value), get?_eq_some_iff.mp found, rfl⟩

theorem keys_nodup (map : OrderedMap Key Value) : map.keys.Nodup :=
  List.pairwise_map.mpr (map.ordered.imp (fun less => less.ne))

theorem entries_nodup (map : OrderedMap Key Value) : map.entries.Nodup :=
  map.ordered.imp (fun less equal => less.ne (congrArg Prod.fst equal))

/-- The last entry below a bound is the greatest one among them. -/
theorem lastBelow_eq_some {map : OrderedMap Key Value} {bound : Key}
    {entry : Key × Value} (found : map.lastBelow bound = some entry)
    : entry ∈ map.entries
      ∧ entry.1 < bound
      ∧ ∀ other ∈ map.entries, other.1 < bound → other.1 ≤ entry.1 := by
  obtain ⟨before, split⟩ := List.getLast?_eq_some_iff.mp found
  have listed : entry ∈ map.entries.filter (fun entry => entry.1 < bound) := by
    rw [split]
    simp
  obtain ⟨member, below⟩ := List.mem_filter.mp listed
  refine ⟨member, by simpa using below, fun other otherMember otherBelow => ?_⟩
  have kept : other ∈ before ++ [entry] := by
    rw [← split]
    exact List.mem_filter.mpr ⟨otherMember, by simpa using otherBelow⟩
  have ordered : (before ++ [entry]).Pairwise (fun left right => left.1 < right.1) :=
    split ▸ map.ordered.filter _
  rcases List.mem_append.mp kept with earlier | last
  · exact ((List.pairwise_append.mp ordered).2.2 other earlier entry (by simp)).le
  · exact (List.mem_singleton.mp last ▸ le_refl _)

/-- No entry lies below a bound under which no last entry is found. -/
theorem lastBelow_eq_none {map : OrderedMap Key Value} {bound : Key}
    (missing : map.lastBelow bound = none) {entry : Key × Value}
    (member : entry ∈ map.entries)
    : bound ≤ entry.1 := by
  have none_below := List.filter_eq_nil_iff.mp (List.getLast?_eq_none_iff.mp missing)
  simpa using none_below entry member

-----------------------------------------------------------------------------------------
-- Updates as permutations of the entries
-----------------------------------------------------------------------------------------

/-- Inserting adds one entry to those of the other keys. -/
theorem insert_entries_perm (map : OrderedMap Key Value) (key : Key) (value : Value)
    : (map.insert key value).entries.Perm ((key, value) :: (map.erase key).entries) := by
  have fresh : (key, value) ∉ (map.erase key).entries := by
    intro member
    simpa using (List.mem_filter.mp member).2
  refine (List.perm_ext_iff_of_nodup (entries_nodup _)
    (List.nodup_cons.mpr ⟨fresh, entries_nodup _⟩)).mpr (fun entry => ?_)
  rw [List.mem_cons]
  refine (mem_insertEntry map.ordered).trans (or_congr_right ?_)
  simp [erase, List.mem_filter]

/-- A stored entry and those of the other keys are all the entries. -/
theorem entries_perm_of_get? {map : OrderedMap Key Value} {key : Key} {value : Value}
    (found : map.get? key = some value)
    : map.entries.Perm ((key, value) :: (map.erase key).entries) := by
  have fresh : (key, value) ∉ (map.erase key).entries := by
    intro member
    simpa using (List.mem_filter.mp member).2
  refine (List.perm_ext_iff_of_nodup (entries_nodup _)
    (List.nodup_cons.mpr ⟨fresh, entries_nodup _⟩)).mpr (fun entry => ?_)
  rw [List.mem_cons]
  constructor
  · intro member
    by_cases same : entry.1 = key
    · exact .inl (eq_of_mem_of_key_eq member (get?_eq_some_iff.mp found) same)
    · exact .inr (List.mem_filter.mpr ⟨member, by simpa using same⟩)
  · rintro (rfl | kept)
    · exact get?_eq_some_iff.mp found
    · exact (List.mem_filter.mp kept).1

/-- Erasing a key that is not stored changes nothing. -/
theorem erase_of_get?_none {map : OrderedMap Key Value} {key : Key}
    (missing : map.get? key = none)
    : map.erase key = map := by
  have kept : map.entries.filter (fun entry => entry.1 != key) = map.entries := by
    refine List.filter_eq_self.mpr (fun entry member => ?_)
    have distinct : entry.1 ≠ key := by
      rintro rfl
      exact get?_eq_none_iff.mp missing entry.2 member
    simpa using distinct
  cases map
  simpa [erase] using kept

/-- The sum of a measure over the stored values. -/
def sumBy (map : OrderedMap Key Value) (measure : Value → Nat) : Nat :=
  (map.entries.map (fun entry => measure entry.2)).sum

theorem sumBy_eq_sum_values (map : OrderedMap Key Value) (measure : Value → Nat)
    : map.sumBy measure = (map.values.map measure).sum := by
  rw [values, List.map_map]
  rfl

@[simp] theorem sumBy_empty (measure : Value → Nat)
    : (∅ : OrderedMap Key Value).sumBy measure = 0 :=
  rfl

/-- A stored value contributes its measure to the sum. -/
theorem sumBy_of_get? {map : OrderedMap Key Value} {key : Key} {value : Value}
    (found : map.get? key = some value) (measure : Value → Nat)
    : map.sumBy measure = measure value + (map.erase key).sumBy measure := by
  simpa [sumBy] using ((entries_perm_of_get? found).map (fun entry => measure entry.2)).sum_eq

/-- Inserting a value adds its measure to the sum over the other keys. -/
theorem sumBy_insert (map : OrderedMap Key Value) (key : Key) (value : Value)
    (measure : Value → Nat)
    : (map.insert key value).sumBy measure = measure value + (map.erase key).sumBy measure := by
  simpa [sumBy] using ((insert_entries_perm map key value).map (fun entry => measure entry.2)).sum_eq

/-- The number of entries is the sum counting each as one. -/
theorem size_eq_sumBy (map : OrderedMap Key Value) : map.size = map.sumBy (fun _ => 1) := by
  simp [size, sumBy]

/-- Maps with the same lookups are equal: their entries are the same, in the same order. -/
theorem ext_get? {left right : OrderedMap Key Value}
    (same : ∀ key, left.get? key = right.get? key)
    : left = right := by
  have perm : left.entries.Perm right.entries := by
    refine (List.perm_ext_iff_of_nodup (entries_nodup _) (entries_nodup _)).mpr (fun entry => ?_)
    exact get?_eq_some_iff.symm.trans ((same entry.1) ▸ get?_eq_some_iff)
  have equal : left.entries = right.entries :=
    perm.eq_of_pairwise (fun _ _ _ _ less greater => absurd less greater.asymm)
      left.ordered right.ordered
  cases left
  cases right
  exact (mk.injEq ..).mpr equal

/-- Erasing a key before storing it makes no difference. -/
theorem insert_erase_self (map : OrderedMap Key Value) (key : Key) (value : Value)
    : (map.erase key).insert key value = map.insert key value := by
  refine ext_get? (fun other => ?_)
  simp only [get?_insert, get?_erase]
  split <;> rfl

/-- Storing what is stored already changes nothing. -/
theorem insert_of_get? {map : OrderedMap Key Value} {key : Key} {value : Value}
    (found : map.get? key = some value)
    : map.insert key value = map := by
  refine ext_get? (fun other => ?_)
  rw [get?_insert]
  split
  · rename_i same
    exact same ▸ found.symm
  · rfl

/-- Erasing a key twice is erasing it once. -/
theorem erase_erase_self (map : OrderedMap Key Value) (key : Key)
    : (map.erase key).erase key = map.erase key :=
  erase_of_get?_none (get?_erase_self map key)

/-- Erasing a key just stored leaves what was there without it. -/
theorem erase_insert_self (map : OrderedMap Key Value) (key : Key) (value : Value)
    : (map.insert key value).erase key = map.erase key := by
  refine ext_get? (fun other => ?_)
  simp only [get?_insert, get?_erase]
  split <;> rfl

/-- Two values that look the same leave the same views behind, by induction on the entries. -/
theorem map_values_insert {Other : Type v} (map : OrderedMap Key Value) (key : Key)
    (view : Value → Other) {first second : Value} (same : view first = view second)
    : (map.insert key first).values.map view = (map.insert key second).values.map view := by
  simp only [values, insert, List.map_map]
  induction map.entries with
  | nil => simp [insertEntry, same]
  | cons head rest ih =>
      simp only [insertEntry]
      split
      · simp [same]
      · split
        · simp [same]
        · simp only [List.map_cons, ih]

theorem mem_keys_insert {map : OrderedMap Key Value} {key other : Key} {value : Value}
    : other ∈ (map.insert key value).keys ↔ other = key ∨ other ∈ map.keys := by
  simp only [mem_keys_iff, get?_insert]
  by_cases same : other = key <;> simp [same]

theorem mem_keys_erase {map : OrderedMap Key Value} {key other : Key}
    : other ∈ (map.erase key).keys ↔ other ≠ key ∧ other ∈ map.keys := by
  simp only [mem_keys_iff, get?_erase]
  by_cases same : other = key <;> simp [same]

/-- The map with every value replaced by a function of its key and itself. -/
def mapValues {Other : Type v} (map : OrderedMap Key Value) (change : Key → Value → Other)
    : OrderedMap Key Other where
  entries := map.entries.map (fun entry => (entry.1, change entry.1 entry.2))
  ordered := by
    rw [List.pairwise_map]
    exact map.ordered

@[simp] theorem get?_mapValues {Other : Type v} (map : OrderedMap Key Value)
    (change : Key → Value → Other) (key : Key)
    : (map.mapValues change).get? key = (map.get? key).map (change key) := by
  cases found : map.get? key with
  | none =>
      refine get?_eq_none_iff.mpr (fun other member => ?_)
      obtain ⟨⟨listedKey, before⟩, listed, same⟩ := List.mem_map.mp member
      cases same
      exact get?_eq_none_iff.mp found before listed
  | some value =>
      refine get?_eq_some_iff.mpr ?_
      exact List.mem_map.mpr ⟨(key, value), get?_eq_some_iff.mp found, rfl⟩

/-- Writing a value at listed keys adds those keys, by induction on the list. -/
theorem mem_keys_foldl_insert {keys : List Key} {map : OrderedMap Key Value} {key : Key}
    {value : Value}
    : key ∈ (keys.foldl (fun map listed => map.insert listed value) map).keys
      ↔ key ∈ keys ∨ key ∈ map.keys := by
  induction keys generalizing map with
  | nil => simp
  | cons head rest ih =>
      rw [List.foldl_cons, ih, mem_keys_insert, List.mem_cons]
      tauto

/-- A key that is not listed is not stored. -/
theorem get?_of_not_mem_keys {map : OrderedMap Key Value} {key : Key} (missing : key ∉ map.keys)
    : map.get? key = none := by
  cases found : map.get? key with
  | none => rfl
  | some value => exact absurd (mem_keys_iff.mpr ⟨value, found⟩) missing

end OrderedMap

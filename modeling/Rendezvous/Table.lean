/-!
Finite tables in ascending order of their keys. Two tables with the same look-ups are equal, so a
table is determined by what it holds and not by how it came about.
-/
namespace Rendezvous

structure Table (κ α : Type) [LT κ] where
  entries : List (κ × α)
  ascending : entries.Pairwise (·.1 < ·.1)
  deriving DecidableEq, Repr

namespace Table

variable {κ α : Type}

/-! ### Lists of entries -/

def lookup [DecidableEq κ] (key : κ) : List (κ × α) → Option α
  | [] => none
  | (k, a) :: rest => if k = key then some a else lookup key rest

/-- Replaces the entry of the key, or puts a new one in its place. -/
def place [LT κ] [DecidableLT κ] [DecidableEq κ] (key : κ) (value : α) :
    List (κ × α) → List (κ × α)
  | [] => [(key, value)]
  | (k, a) :: rest =>
    if key < k then (key, value) :: (k, a) :: rest
    else if k = key then (key, value) :: rest
    else (k, a) :: place key value rest

section Compared

variable [LT κ] [DecidableLT κ] [DecidableEq κ]

theorem mem_place {key : κ} {value : α} {entries : List (κ × α)} {e : κ × α}
    (h : e ∈ place key value entries) : e = (key, value) ∨ e ∈ entries := by
  induction entries with
  | nil => simpa [place] using h
  | cons head rest ih =>
    obtain ⟨k, a⟩ := head
    unfold place at h
    split at h
    · simpa using h
    · split at h
      · rcases List.mem_cons.1 h with h | h
        · exact .inl h
        · exact .inr (List.mem_cons_of_mem _ h)
      · rcases List.mem_cons.1 h with h | h
        · exact .inr (h ▸ List.mem_cons_self)
        · exact (ih h).imp_right (List.mem_cons_of_mem _)

theorem lookup_place (key : κ) (value : α) (entries : List (κ × α)) (other : κ) :
    lookup other (place key value entries) =
      if key = other then some value else lookup other entries := by
  induction entries with
  | nil => simp [place, lookup]
  | cons head rest ih =>
    obtain ⟨k, a⟩ := head
    unfold place
    split
    · simp [lookup]
    · split
      · next heq =>
        subst heq
        by_cases h : k = other <;> simp [lookup, h]
      · next hne =>
        by_cases h : k = other
        · subst h
          simp [lookup, Ne.symm hne]
        · simp [lookup, h, ih]

end Compared

theorem lookup_eq_none_of_lt [LE κ] [LT κ] [DecidableEq κ] [Std.LawfulOrderLT κ]
    {key : κ} (entries : List (κ × α))
    (h : ∀ e ∈ entries, key < e.1) : lookup key entries = none := by
  induction entries with
  | nil => rfl
  | cons head rest ih =>
    have hne : head.1 ≠ key := fun heq =>
      Std.lt_irrefl (heq ▸ h head List.mem_cons_self)
    rw [lookup, if_neg hne]
    exact ih fun e he => h e (List.mem_cons_of_mem _ he)

section Ordered

variable [LE κ] [LT κ] [DecidableEq κ] [Std.IsLinearOrder κ] [Std.LawfulOrderLT κ]

theorem place_ascending [DecidableLT κ] {key : κ} {value : α} {entries : List (κ × α)}
    (h : entries.Pairwise (·.1 < ·.1)) : (place key value entries).Pairwise (·.1 < ·.1) := by
  induction entries with
  | nil => simp [place]
  | cons head rest ih =>
    obtain ⟨k, a⟩ := head
    obtain ⟨hhead, hrest⟩ := List.pairwise_cons.1 h
    unfold place
    split
    · next hlt =>
      refine List.pairwise_cons.2 ⟨fun e he => ?_, h⟩
      rcases List.mem_cons.1 he with rfl | he
      · exact hlt
      · exact Std.lt_trans hlt (hhead e he)
    · next hnot =>
      split
      · next heq => exact List.pairwise_cons.2 ⟨fun e he => heq ▸ hhead e he, hrest⟩
      · next hne =>
        have hlt : k < key := Std.lt_of_le_of_ne (Std.not_lt.1 hnot) hne
        refine List.pairwise_cons.2 ⟨fun e he => ?_, ih hrest⟩
        rcases mem_place he with rfl | he
        · exact hlt
        · exact hhead e he

theorem entries_eq_of_lookup_eq [DecidableLT κ] {l m : List (κ × α)} (hl : l.Pairwise (·.1 < ·.1))
    (hm : m.Pairwise (·.1 < ·.1)) (h : ∀ key, lookup key l = lookup key m) : l = m := by
  induction l generalizing m with
  | nil =>
    cases m with
    | nil => rfl
    | cons head rest =>
      have := h head.1
      simp [lookup] at this
  | cons head rest ih =>
    obtain ⟨k, a⟩ := head
    obtain ⟨hhead, hrest⟩ := List.pairwise_cons.1 hl
    cases m with
    | nil =>
      have := h k
      simp [lookup] at this
    | cons head' rest' =>
      obtain ⟨k', a'⟩ := head'
      obtain ⟨hhead', hrest'⟩ := List.pairwise_cons.1 hm
      have hkey : k = k' := by
        by_cases hlt : k < k'
        · have := h k
          rw [lookup_eq_none_of_lt ((k', a') :: rest')] at this
          · simp [lookup] at this
          · intro e he
            rcases List.mem_cons.1 he with rfl | he
            · exact hlt
            · exact Std.lt_trans hlt (hhead' e he)
        · by_cases heq : k = k'
          · exact heq
          · have hgt : k' < k := Std.lt_of_le_of_ne (Std.not_lt.1 hlt) (Ne.symm heq)
            have := h k'
            rw [lookup_eq_none_of_lt ((k, a) :: rest)] at this
            · simp [lookup] at this
            · intro e he
              rcases List.mem_cons.1 he with rfl | he
              · exact hgt
              · exact Std.lt_trans hgt (hhead e he)
      subst hkey
      have hvalue : a = a' := by
        have := h k
        simpa [lookup] using this
      subst hvalue
      have htail : rest = rest' := by
        refine ih hrest hrest' fun key => ?_
        by_cases hk : k = key
        · subst hk
          rw [lookup_eq_none_of_lt rest hhead, lookup_eq_none_of_lt rest' hhead']
        · have := h key
          simpa [lookup, hk] using this
      rw [htail]

end Ordered

section Listed

variable [DecidableEq κ]

theorem lookup_filter_ne (key other : κ) (entries : List (κ × α)) :
    lookup other (entries.filter fun e => e.1 ≠ key) =
      if key = other then none else lookup other entries := by
  induction entries with
  | nil => simp [lookup]
  | cons head rest ih =>
    obtain ⟨k, a⟩ := head
    by_cases hk : k = key
    · subst hk
      rw [List.filter_cons_of_neg (by simp), ih]
      by_cases h : k = other <;> simp [lookup, h]
    · rw [List.filter_cons_of_pos (by simpa using hk), lookup, lookup, ih]
      by_cases h : k = other
      · subst h
        simp [Ne.symm hk]
      · simp [h]

theorem lookup_map_change (key : κ) (change : α → α) (other : κ) (entries : List (κ × α)) :
    lookup other (entries.map fun e => (e.1, if e.1 = key then change e.2 else e.2)) =
      (lookup other entries).map fun a => if other = key then change a else a := by
  induction entries with
  | nil => rfl
  | cons head rest ih =>
    obtain ⟨k, a⟩ := head
    by_cases h : k = other
    · simp [lookup, h]
    · simp [lookup, h, ih]

end Listed

/-! ### Tables -/

section Defined

variable [LT κ]

def empty : Table κ α :=
  ⟨[], .nil⟩

def keys (t : Table κ α) : List κ :=
  t.entries.map (·.1)

def values (t : Table κ α) : List α :=
  t.entries.map (·.2)

def size (t : Table κ α) : Nat :=
  t.entries.length

def get? [DecidableEq κ] (t : Table κ α) (key : κ) : Option α :=
  lookup key t.entries

def erase [DecidableEq κ] (t : Table κ α) (key : κ) : Table κ α :=
  ⟨t.entries.filter fun e => e.1 ≠ key, t.ascending.filter _⟩

/-- Changes the value of the key, if it has one. -/
def modify [DecidableEq κ] (t : Table κ α) (key : κ) (change : α → α) : Table κ α :=
  ⟨t.entries.map fun e => (e.1, if e.1 = key then change e.2 else e.2),
    List.pairwise_map.2 t.ascending⟩

def contains [DecidableEq κ] (t : Table κ α) (key : κ) : Bool :=
  (t.get? key).isSome

def insert [LE κ] [DecidableLT κ] [DecidableEq κ] [Std.IsLinearOrder κ]
    [Std.LawfulOrderLT κ] (t : Table κ α) (key : κ) (value : α) : Table κ α :=
  ⟨place key value t.entries, place_ascending t.ascending⟩

theorem keys_ascending (t : Table κ α) : t.keys.Pairwise (· < ·) :=
  List.pairwise_map.2 t.ascending

@[simp] theorem length_keys (t : Table κ α) : t.keys.length = t.size := by
  simp [keys, size]

end Defined

section LookedUp

variable [LT κ] [DecidableEq κ]

@[simp] theorem get?_empty (key : κ) : (empty : Table κ α).get? key = none := rfl

@[simp] theorem get?_erase (t : Table κ α) (key other : κ) :
    (t.erase key).get? other = if key = other then none else t.get? other :=
  lookup_filter_ne key other t.entries

@[simp] theorem get?_modify (t : Table κ α) (key : κ) (change : α → α) (other : κ) :
    (t.modify key change).get? other =
      (t.get? other).map fun a => if other = key then change a else a :=
  lookup_map_change key change other t.entries

@[simp] theorem keys_modify (t : Table κ α) (key : κ) (change : α → α) :
    (t.modify key change).keys = t.keys := by
  simp [keys, modify]

theorem mem_keys_iff {t : Table κ α} {key : κ} : key ∈ t.keys ↔ ∃ a, t.get? key = some a := by
  obtain ⟨entries, _⟩ := t
  simp only [keys, get?]
  induction entries with
  | nil => simp [lookup]
  | cons head rest ih =>
    obtain ⟨k, a⟩ := head
    by_cases h : k = key
    · simp [lookup, h]
    · simp [lookup, h, Ne.symm h, ih (List.Pairwise.of_cons ‹_›)]

end LookedUp

section Ordered

variable [LE κ] [LT κ] [DecidableLT κ] [DecidableEq κ]

variable [Std.IsLinearOrder κ] [Std.LawfulOrderLT κ]

@[simp] theorem get?_insert (t : Table κ α) (key : κ) (value : α) (other : κ) :
    (t.insert key value).get? other = if key = other then some value else t.get? other :=
  lookup_place key value t.entries other

/-- A table is what its look-ups are. -/
theorem ext_get? {t u : Table κ α} (h : ∀ key, t.get? key = u.get? key) : t = u := by
  obtain ⟨l, hl⟩ := t
  obtain ⟨m, hm⟩ := u
  obtain rfl := entries_eq_of_lookup_eq hl hm h
  rfl

end Ordered

end Table

/-- A set of client indices, in ascending order: a table whose values say nothing. -/
abbrev IndexSet := Table UInt8 Unit

namespace IndexSet

def insertIndex (s : IndexSet) (index : UInt8) : IndexSet :=
  s.insert index ()

theorem contains_insertIndex (s : IndexSet) (index other : UInt8) :
    (s.insertIndex index).contains other = (index == other || s.contains other) := by
  by_cases h : index = other <;> simp [insertIndex, Table.contains, h]

theorem insertIndex_ne {s : IndexSet} {index : UInt8} (h : ¬s.contains index) :
    s.insertIndex index ≠ s := by
  intro heq
  rw [← heq, contains_insertIndex] at h
  simp at h

end IndexSet

end Rendezvous

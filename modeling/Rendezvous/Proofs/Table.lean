import Mathlib
import Rendezvous.Table

/-!
Counting in tables: how many entries an insertion adds and a removal takes away, and what a change
of one value does to a list of, or a sum over, all values.
-/
namespace Rendezvous.Table

variable {κ α β : Type}

/-- A sum over a list whose terms are bounded where a test holds and vanish elsewhere. -/
theorem sum_map_le_countP_mul {l : List α} {p : α → Bool} {f : α → Nat} {n : Nat}
    (hle : ∀ a ∈ l, p a → f a ≤ n) (hzero : ∀ a ∈ l, ¬p a → f a = 0) :
    (l.map f).sum ≤ l.countP p * n := by
  induction l with
  | nil => simp
  | cons a rest ih =>
      have hrest := ih (fun b hb => hle b (List.mem_cons_of_mem _ hb))
        fun b hb => hzero b (List.mem_cons_of_mem _ hb)
      rw [List.map_cons, List.sum_cons]
      by_cases hp : p a
      · have ha := hle a List.mem_cons_self hp
        rw [List.countP_cons_of_pos hp, Nat.succ_mul]
        omega
      · have ha := hzero a List.mem_cons_self hp
        rw [List.countP_cons_of_neg hp]
        omega

section LookedUp

variable [LT κ] [DecidableEq κ]

theorem contains_iff {t : Table κ α} {key : κ} : t.contains key ↔ key ∈ t.keys := by
  rw [mem_keys_iff, contains, Option.isSome_iff_exists]

theorem mem_entries_of_get? {t : Table κ α} {key : κ} {a : α} (h : t.get? key = some a) :
    (key, a) ∈ t.entries := by
  obtain ⟨entries, hascending⟩ := t
  simp only [get?] at h ⊢
  clear hascending
  induction entries with
  | nil => cases h
  | cons head rest ih =>
      obtain ⟨k, b⟩ := head
      rw [lookup] at h
      split at h
      · next hkey =>
        obtain rfl := Option.some.inj h
        simp [hkey]
      · exact List.mem_cons_of_mem _ (ih h)

/-- A change that cannot be seen in one value cannot be seen in all. -/
theorem map_values_modify (t : Table κ α) (key : κ) {change : α → α} {f : α → β}
    (h : ∀ a, f (change a) = f a) : (t.modify key change).values.map f = t.values.map f := by
  simp only [values, modify, List.map_map]
  refine List.map_congr_left fun e _ => ?_
  simp only [Function.comp_apply]
  split
  · exact h e.2
  · rfl

theorem length_place_of_lookup_eq_none [DecidableLT κ] {key : κ} {entries : List (κ × α)}
    (h : lookup key entries = none) (value : α) :
    (place key value entries).length = entries.length + 1 := by
  induction entries with
  | nil => rfl
  | cons head rest ih =>
      obtain ⟨k, a⟩ := head
      rw [lookup] at h
      split at h
      · cases h
      · next hne =>
        rw [place]
        split
        · rfl
        · rw [List.length_cons, ih h, List.length_cons]

end LookedUp

section Ordered

variable [LE κ] [LT κ] [Std.LawfulOrderLT κ]

theorem nodup_keys (t : Table κ α) : t.keys.Nodup := by
  refine t.keys_ascending.imp ?_
  rintro a b hlt rfl
  exact Std.lt_irrefl hlt

variable [DecidableEq κ]

theorem get?_of_mem_entries {t : Table κ α} {key : κ} {a : α} (h : (key, a) ∈ t.entries) :
    t.get? key = some a := by
  obtain ⟨entries, hascending⟩ := t
  simp only [get?] at h ⊢
  induction entries with
  | nil => cases h
  | cons head rest ih =>
      obtain ⟨k, b⟩ := head
      obtain ⟨hhead, hrest⟩ := List.pairwise_cons.1 hascending
      rcases List.mem_cons.1 h with h | h
      · obtain ⟨rfl, rfl⟩ := Prod.mk.inj h
        simp [lookup]
      · have hlt : k < key := hhead _ h
        have hne : k ≠ key := by
          rintro rfl
          exact Std.lt_irrefl hlt
        rw [lookup, if_neg hne]
        exact ih hrest h

theorem mem_entries_iff {t : Table κ α} {key : κ} {a : α} :
    (key, a) ∈ t.entries ↔ t.get? key = some a :=
  ⟨get?_of_mem_entries, mem_entries_of_get?⟩

theorem modify_of_get?_eq_none [DecidableLT κ] [Std.IsLinearOrder κ] {t : Table κ α} {key : κ}
    (h : t.get? key = none) (change : α → α) : t.modify key change = t := by
  refine ext_get? fun other => ?_
  rw [get?_modify]
  by_cases hother : other = key
  · subst hother
    simp [h]
  · simp [hother]

theorem size_insert_of_not_contains [DecidableLT κ] [Std.IsLinearOrder κ] {t : Table κ α}
    {key : κ} (h : ¬t.contains key) (value : α) : (t.insert key value).size = t.size + 1 := by
  refine length_place_of_lookup_eq_none ?_ value
  simpa [contains, get?] using h

theorem keys_erase (t : Table κ α) (key : κ) : (t.erase key).keys = t.keys.erase key := by
  rw [t.nodup_keys.erase_eq_filter, keys, keys, List.filter_map]
  refine congrArg (List.map _) (List.filter_congr fun e _ => ?_)
  simp [bne, beq_eq_decide]

theorem size_erase_of_contains {t : Table κ α} {key : κ} (h : t.contains key) :
    (t.erase key).size + 1 = t.size := by
  have hmem := contains_iff.1 h
  rw [← length_keys, keys_erase, List.length_erase_of_mem hmem, ← length_keys]
  have hpos := List.length_pos_of_mem hmem
  omega

/-- A key has one entry, so a change of its value shows once in a sum over all values. -/
theorem sum_values_modify (t : Table κ α) {key : κ} {a : α} (h : t.get? key = some a)
    (change : α → α) (f : α → Nat) :
    ((t.modify key change).values.map f).sum + f a = (t.values.map f).sum + f (change a) := by
  obtain ⟨entries, hascending⟩ := t
  simp only [get?, values, modify, List.map_map] at h ⊢
  induction entries with
  | nil => cases h
  | cons head rest ih =>
      obtain ⟨k, b⟩ := head
      obtain ⟨hhead, hrest⟩ := List.pairwise_cons.1 hascending
      rw [lookup] at h
      simp only [List.map_cons, List.sum_cons, Function.comp_apply]
      split at h
      · next hkey =>
        subst hkey
        obtain rfl := Option.some.inj h
        -- The keys ascend, so the rest has no entry of this key.
        have hother : ∀ e ∈ rest, e.1 ≠ k := fun e he heq => Std.lt_irrefl (heq ▸ hhead e he)
        have hsame : rest.map (f ∘ (fun e => e.2) ∘
            fun e => (e.1, if e.1 = k then change e.2 else e.2)) = rest.map (f ∘ fun e => e.2) :=
          List.map_congr_left fun e he => by simp [hother e he]
        rw [hsame, if_pos rfl]
        omega
      · next hkey =>
        have hsum := ih hrest h
        rw [if_neg hkey]
        omega

end Ordered

end Rendezvous.Table

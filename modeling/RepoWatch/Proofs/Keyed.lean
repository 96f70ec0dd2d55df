/-!
# Lists with keys

Entries are kept in lists under keys: the data of a cache, the subscribers of an outlet, the watches
of a feed. An entry that is put under a key takes the place of the one that was there.
-/

namespace RepoWatch.Keyed

variable {κ β : Type} [BEq κ] [LawfulBEq κ] {entries : List (κ × β)} {key k : κ}

theorem lookup_without_self (entries : List (κ × β)) (key : κ) :
    (entries.filter fun e => e.1 != key).lookup key = none := by
  rw [List.lookup_eq_none_iff]
  intro entry hmem
  have hne : entry.1 ≠ key := by simpa using (List.mem_filter.1 hmem).2
  simpa using Ne.symm hne

theorem lookup_without_of_ne (entries : List (κ × β)) (hne : k ≠ key) :
    (entries.filter fun e => e.1 != key).lookup k = entries.lookup k := by
  induction entries with
  | nil => rfl
  | cons entry entries ih =>
      obtain ⟨key', b⟩ := entry
      by_cases hkey : key' = key
      · have hdropped : ((key', b).1 != key) = false := by simpa using hkey
        have hother : (k == key') = false := by simpa [hkey] using hne
        simpa only [List.filter_cons, hdropped, Bool.false_eq_true, if_false, List.lookup_cons,
          hother] using ih
      · have hkept : ((key', b).1 != key) = true := by simpa using hkey
        simp only [List.filter_cons, hkept, if_true, List.lookup_cons]
        rw [ih]

theorem lookup_replaced_self (entries : List (κ × β)) (key : κ) (b : β) :
    ((key, b) :: entries.filter fun e => e.1 != key).lookup key = some b :=
  List.lookup_cons_self

theorem lookup_replaced_of_ne (entries : List (κ × β)) (b : β) (hne : k ≠ key) :
    ((key, b) :: entries.filter fun e => e.1 != key).lookup k = entries.lookup k := by
  have hother : (k == key) = false := by simpa using hne
  rw [List.lookup_cons, hother, lookup_without_of_ne entries hne]

/-- The entry under a key takes another value, at its place. -/
theorem lookup_moved [DecidableEq κ] (entries : List (κ × β)) (key k : κ) (b : β) :
    (entries.map fun e => if e.1 = key then (key, b) else e).lookup k =
      if k = key then (entries.lookup k).map fun _ => b else entries.lookup k := by
  induction entries with
  | nil => simp
  | cons entry entries ih =>
      obtain ⟨key', b'⟩ := entry
      rw [List.map_cons, List.lookup_cons, List.lookup_cons, ih]
      by_cases hfirst : k = key'
      · subst hfirst
        by_cases hk : k = key <;> simp [hk]
      · have hother : (k == key') = false := by simpa using hfirst
        by_cases hkey : key' = key
        · have hk : k ≠ key := hkey ▸ hfirst
          have hne : (k == key) = false := by simpa using hk
          simp only [hkey, hk, hne, if_true, if_false]
        · simp only [hkey, hother, if_false]

omit [BEq κ] [LawfulBEq κ] in
theorem keys_moved [DecidableEq κ] (entries : List (κ × β)) (key : κ) (b : β) :
    (entries.map fun e => if e.1 = key then (key, b) else e).map Prod.fst =
      entries.map Prod.fst := by
  rw [List.map_map]
  apply List.map_congr_left
  intro entry _
  by_cases hkey : entry.1 = key <;> simp [hkey]

theorem mem_keys_iff : k ∈ entries.map Prod.fst ↔ ∃ b, entries.lookup k = some b := by
  constructor
  · intro hmem
    cases hlookup : entries.lookup k with
    | some b => exact ⟨b, rfl⟩
    | none =>
        obtain ⟨entry, hentry, hkey⟩ := List.mem_map.1 hmem
        have hne := List.lookup_eq_none_iff.1 hlookup entry hentry
        simp [hkey] at hne
  · rintro ⟨b, hb⟩
    obtain ⟨before, later, hentries, -⟩ := List.lookup_eq_some_iff.1 hb
    rw [hentries]
    simp

omit [LawfulBEq κ] in
theorem nodup_without (h : (entries.map Prod.fst).Nodup) (key : κ) :
    ((entries.filter fun e => e.1 != key).map Prod.fst).Nodup :=
  h.sublist (List.filter_sublist.map Prod.fst)

theorem nodup_replaced (h : (entries.map Prod.fst).Nodup) (key : κ) (b : β) :
    (((key, b) :: entries.filter fun e => e.1 != key).map Prod.fst).Nodup := by
  refine List.nodup_cons.2 ⟨fun hmem => ?_, nodup_without h key⟩
  obtain ⟨b', hb'⟩ := mem_keys_iff.1 hmem
  rw [lookup_without_self] at hb'
  cases hb'

end RepoWatch.Keyed

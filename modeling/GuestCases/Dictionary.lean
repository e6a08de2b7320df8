/-!
Dictionaries: pairs of a text and a value, sorted by text, with one pair for each text.
Inserting a pair takes the place of an earlier one with its text.
-/

namespace GuestCases

structure Dictionary (α : Type) where
  pairs : List (String × α)
deriving DecidableEq

namespace Dictionary

variable {α : Type}

def empty : Dictionary α := ⟨[]⟩

def insertPair (key : String) (value : α) : List (String × α) → List (String × α)
  | [] => [(key, value)]
  | (other, old) :: rest =>
    if key < other then (key, value) :: (other, old) :: rest
    else if key = other then (key, value) :: rest
    else (other, old) :: insertPair key value rest

def insert (dictionary : Dictionary α) (key : String) (value : α) : Dictionary α :=
  ⟨insertPair key value dictionary.pairs⟩

def ofList (pairs : List (String × α)) : Dictionary α :=
  pairs.foldl (fun dictionary pair => dictionary.insert pair.1 pair.2) empty

def find? (dictionary : Dictionary α) (key : String) : Option α :=
  dictionary.pairs.lookup key

def contains (dictionary : Dictionary α) (key : String) : Bool :=
  (dictionary.find? key).isSome

def keys (dictionary : Dictionary α) : List String :=
  dictionary.pairs.map Prod.fst

theorem lookup_cons_eq_ite (key other : String) (value : α) (rest : List (String × α)) :
    ((key, value) :: rest).lookup other =
      if other = key then some value else rest.lookup other := by
  rw [List.lookup_cons]
  by_cases h : other = key
  · simp [h]
  · rw [beq_false_of_ne h, if_neg h]

/-- Inserting a pair decides what its key leads to, and nothing else. -/
theorem lookup_insertPair (key other : String) (value : α) (pairs : List (String × α)) :
    (insertPair key value pairs).lookup other =
      if other = key then some value else pairs.lookup other := by
  induction pairs with
  | nil => exact lookup_cons_eq_ite key other value []
  | cons pair rest ih =>
    obtain ⟨first, old⟩ := pair
    rw [insertPair]
    split
    · exact lookup_cons_eq_ite key other value _
    · split
      · rename_i heq
        rw [lookup_cons_eq_ite, lookup_cons_eq_ite, heq]
        split <;> rfl
      · rename_i hne
        rw [lookup_cons_eq_ite, lookup_cons_eq_ite, ih]
        by_cases hfirst : other = first
        · rw [if_pos hfirst, if_pos hfirst, if_neg fun hkey => hne (hkey.symm.trans hfirst)]
        · rw [if_neg hfirst, if_neg hfirst]

/-- Of several pairs with one key the last one counts. -/
theorem find?_ofList (pairs : List (String × α)) (key : String) :
    (ofList pairs).find? key = pairs.reverse.lookup key := by
  have hfold : ∀ start : Dictionary α,
      (pairs.foldl (fun dictionary pair => dictionary.insert pair.1 pair.2) start).find? key =
        (pairs.reverse.lookup key).or (start.find? key) := by
    induction pairs with
    | nil => exact fun start => rfl
    | cons pair rest ih =>
      intro start
      have hinsert : (start.insert pair.1 pair.2).find? key =
          if key = pair.1 then some pair.2 else start.find? key :=
        lookup_insertPair pair.1 key pair.2 start.pairs
      rw [List.foldl_cons, ih, hinsert, List.reverse_cons, List.lookup_append, lookup_cons_eq_ite,
        Option.or_assoc]
      by_cases hkey : key = pair.1 <;> simp [hkey]
  exact (hfold empty).trans (Option.or_none)

theorem mem_map_fst_iff (pairs : List (String × α)) (key : String) :
    key ∈ pairs.map Prod.fst ↔ (pairs.lookup key).isSome := by
  rw [List.lookup_isSome_iff, List.mem_map]
  exact exists_congr fun pair => and_congr_right fun _ => by rw [beq_iff_eq, eq_comm]

/-- The keys of a dictionary are those of the pairs it was made of. -/
theorem mem_keys_ofList_iff (pairs : List (String × α)) (key : String) :
    key ∈ (ofList pairs).keys ↔ key ∈ pairs.map Prod.fst := by
  have hfind := find?_ofList pairs key
  rw [find?] at hfind
  rw [keys, mem_map_fst_iff, hfind, ← mem_map_fst_iff, List.map_reverse, List.mem_reverse]

def Ascending (pairs : List (String × α)) : Prop :=
  pairs.Pairwise fun first second => first.1 < second.1

theorem Ascending.insertPair {pairs : List (String × α)} (h : Ascending pairs) (key : String)
    (value : α) : Ascending (insertPair key value pairs) := by
  induction h with
  | nil => exact List.pairwise_singleton _ _
  | @cons first rest hfirst hrest ih =>
    rw [Dictionary.insertPair]
    split
    · rename_i hbefore
      refine List.pairwise_cons.mpr ⟨?_, List.pairwise_cons.mpr ⟨hfirst, hrest⟩⟩
      exact List.forall_mem_cons.mpr
        ⟨hbefore, fun pair hpair => String.lt_trans hbefore (hfirst pair hpair)⟩
    split
    · rename_i hequal
      exact List.pairwise_cons.mpr ⟨fun pair hpair => hequal ▸ hfirst pair hpair, hrest⟩
    · rename_i hbefore hequal
      refine List.pairwise_cons.mpr ⟨fun pair hpair => ?_, ih⟩
      have hmem := List.mem_map_of_mem (f := Prod.fst) hpair
      rw [mem_map_fst_iff, lookup_insertPair] at hmem
      split at hmem
      · rename_i hnew
        exact hnew ▸ Std.lt_of_le_of_ne (String.not_lt.mp hbefore) (Ne.symm hequal)
      · obtain ⟨other, hother, hkey⟩ := List.mem_map.mp ((mem_map_fst_iff _ _).mpr hmem)
        exact hkey ▸ hfirst other hother

theorem ascending_ofList (pairs : List (String × α)) : Ascending (ofList pairs).pairs := by
  have hfold : ∀ start : Dictionary α, Ascending start.pairs → Ascending
      (pairs.foldl (fun dictionary pair => dictionary.insert pair.1 pair.2) start).pairs := by
    induction pairs with
    | nil => exact fun start hstart => hstart
    | cons pair rest ih => exact fun start hstart => ih _ (hstart.insertPair pair.1 pair.2)
  exact hfold empty List.Pairwise.nil

/-- With distinct keys, a pair is in the list exactly when a search for its key finds it. -/
theorem Ascending.mem_iff {pairs : List (String × α)} (h : Ascending pairs) (key : String)
    (value : α) : (key, value) ∈ pairs ↔ pairs.lookup key = some value := by
  induction h with
  | nil => simp
  | @cons first rest hfirst hrest ih =>
    rw [List.mem_cons, ih, lookup_cons_eq_ite, Prod.ext_iff]
    by_cases hkey : key = first.1
    · have hnone : rest.lookup key = none := by
        rw [← Option.not_isSome_iff_eq_none, ← mem_map_fst_iff, List.mem_map]
        rintro ⟨pair, hpair, hsame⟩
        exact String.lt_irrefl _ (hkey ▸ hsame ▸ hfirst pair hpair)
      simp [hkey ▸ hnone, hkey, eq_comm]
    · simp [hkey]

end Dictionary

end GuestCases

/-!
# Maps that keep the order of insertion

A map from texts that lists its entries in the order in which their keys first came in. Giving a
key a new value leaves the key where it stands; removing one leaves the order of the others. No key
occurs twice, which is part of the type.
-/

namespace SqlSelect

/-- Entries in order, each key once. -/
@[ext] structure OrderedMap (β : Type) where
  entries : List (String × β)
  distinct : (entries.map Prod.fst).Nodup

namespace OrderedMap

variable {β : Type}

/-! ## Looking up -/

/-- The keys in order. -/
def keys (m : OrderedMap β) : List String := m.entries.map Prod.fst

/-- The values in the order of their keys. -/
def values (m : OrderedMap β) : List β := m.entries.map Prod.snd

/-- The value under a key. -/
def get? (m : OrderedMap β) (key : String) : Option β :=
  (m.entries.find? fun entry => entry.1 == key).map Prod.snd

/-- Whether there is a value under a key. -/
def contains (m : OrderedMap β) (key : String) : Bool := m.entries.any fun entry => entry.1 == key

/-! ## The empty map -/

/-- The map without entries. -/
def empty : OrderedMap β := ⟨[], List.nodup_nil⟩

instance : EmptyCollection (OrderedMap β) := ⟨empty⟩

instance : Inhabited (OrderedMap β) := ⟨empty⟩

/-! ## Inserting -/

/-- The entry for a key replaced where it stands, or put at the end. -/
def put (key : String) (value : β) : List (String × β) → List (String × β)
  | [] => [(key, value)]
  | entry :: rest =>
    if entry.1 = key then (key, value) :: rest else entry :: put key value rest

theorem keys_put (key : String) (value : β) : ∀ es : List (String × β),
    (put key value es).map Prod.fst
      = if key ∈ es.map Prod.fst then es.map Prod.fst else es.map Prod.fst ++ [key]
  | [] => by simp [put]
  | entry :: rest => by
    by_cases h : entry.1 = key
    · simp [put, h]
    · have ih := keys_put key value rest
      have h' : key ≠ entry.1 := fun e => h e.symm
      by_cases hk : key ∈ rest.map Prod.fst
      · simp only [put, if_neg h, List.map_cons, ih, List.mem_cons, hk, or_true, if_true]
      · have hn : key ∉ entry.1 :: rest.map Prod.fst := by
          simp only [List.mem_cons, not_or]
          exact ⟨h', hk⟩
        simp only [put, if_neg h, List.map_cons, ih, if_neg hk, if_neg hn, List.cons_append]

theorem nodup_keys_put (key : String) (value : β) {es : List (String × β)}
    (h : (es.map Prod.fst).Nodup) : ((put key value es).map Prod.fst).Nodup := by
  rw [keys_put]
  split
  · exact h
  · next hk =>
    refine List.nodup_append.mpr ⟨h, by simp, ?_⟩
    intro a ha b hb hab
    rw [List.mem_singleton] at hb
    exact hk (hb ▸ hab ▸ ha)

/-- The map with a value under a key: in the key's place if it has one, else at the end. -/
def insert (m : OrderedMap β) (key : String) (value : β) : OrderedMap β :=
  ⟨put key value m.entries, nodup_keys_put key value m.distinct⟩

theorem find?_put (key other : String) (value : β) : ∀ es : List (String × β),
    ((put key value es).find? fun entry => entry.1 == other).map Prod.snd
      = if key = other then some value
        else (es.find? fun entry => entry.1 == other).map Prod.snd
  | [] => by by_cases h : key = other <;> simp [put, h]
  | entry :: rest => by
    have ih := find?_put key other value rest
    by_cases hk : entry.1 = key
    · subst hk
      by_cases h : entry.1 = other <;> simp [put, h]
    · by_cases h : entry.1 = other
      · have hko : key ≠ other := fun e => hk (h.trans e.symm)
        simp [put, h, hko, Ne.symm hko]
      · simpa [put, hk, h] using ih

/-- The value just put under a key is found there; what other keys have does not change. -/
theorem get?_insert (m : OrderedMap β) (key other : String) (value : β) :
    (m.insert key value).get? other = if key = other then some value else m.get? other :=
  find?_put key other value m.entries

/-- The map of a list of entries. A key that comes again keeps its place and takes the new value. -/
def ofList (es : List (String × β)) : OrderedMap β :=
  es.foldl (fun m entry => m.insert entry.1 entry.2) empty

/-! ## Removing and reordering -/

/-- The map without a key, the others in their order. -/
def erase (m : OrderedMap β) (key : String) : OrderedMap β :=
  ⟨m.entries.filter fun entry => entry.1 != key,
    m.distinct.sublist (List.Sublist.map _ List.filter_sublist)⟩

/-- Nothing is found under a key that was removed; what other keys have does not change. -/
theorem get?_erase (m : OrderedMap β) (key other : String) :
    (m.erase key).get? other = if key = other then none else m.get? other := by
  unfold get? erase
  rw [List.find?_filter]
  by_cases h : key = other
  · subst h
    rw [if_pos rfl, Option.map_eq_none_iff, List.find?_eq_none]
    simp
  · rw [if_neg h]
    congr 2
    funext entry
    by_cases he : entry.1 = other
    · have : entry.1 ≠ key := fun e => h (e.symm.trans he)
      simp [he, Ne.symm h]
    · simp [he]

/-- The entries in the opposite order. -/
def reverse (m : OrderedMap β) : OrderedMap β :=
  ⟨m.entries.reverse, by
    rw [List.map_reverse]
    exact List.pairwise_reverse.mpr (m.distinct.imp Ne.symm)⟩

/-! ## Changing the values -/

/-- Every value through `f`, the keys in their order. -/
def map {γ : Type} (f : β → γ) (m : OrderedMap β) : OrderedMap γ where
  entries := m.entries.map fun entry => (entry.1, f entry.2)
  distinct := by
    rw [List.map_map]
    exact m.distinct

theorem get?_map {γ : Type} (f : β → γ) (m : OrderedMap β) (key : String) :
    (m.map f).get? key = (m.get? key).map f := by
  unfold get? map
  rw [List.find?_map, Option.map_map, Option.map_map]
  rfl

theorem map_map {γ δ : Type} (g : γ → δ) (f : β → γ) (m : OrderedMap β) :
    (m.map f).map g = m.map (g ∘ f) := by
  ext1
  exact List.map_map

theorem put_map {γ : Type} (f : β → γ) (key : String) (value : β) : ∀ es : List (String × β),
    put key (f value) (es.map fun entry => (entry.1, f entry.2))
      = (put key value es).map fun entry => (entry.1, f entry.2)
  | [] => rfl
  | entry :: rest => by
    by_cases h : entry.1 = key
    · simp [put, h]
    · simp [put, h, put_map f key value rest]

theorem map_insert {γ : Type} (f : β → γ) (m : OrderedMap β) (key : String) (value : β) :
    (m.insert key value).map f = (m.map f).insert key (f value) :=
  OrderedMap.ext (put_map f key value m.entries).symm

theorem map_erase {γ : Type} (f : β → γ) (m : OrderedMap β) (key : String) :
    (m.erase key).map f = (m.map f).erase key := by
  ext1
  show (m.entries.filter _).map _ = (m.entries.map _).filter _
  rw [List.filter_map]
  rfl

/-! ## Equality up to order -/

/-- Whether two maps have the same keys with the same values, in whatever order. -/
def sameEntries [BEq β] (a b : OrderedMap β) : Bool :=
  a.entries.length == b.entries.length &&
    a.entries.all fun entry => b.get? entry.1 == some entry.2

end OrderedMap

end SqlSelect

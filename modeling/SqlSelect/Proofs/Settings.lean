import Mathlib.Data.List.Nodup
import Mathlib.Data.List.Perm.Subperm
import SqlSelect.Proofs.Isolation

/-!
# Options as an ordered map

Two options are there from the beginning, the others come in as they are first set. So the names of
the options are these two and then the names that were set, each where it came first
(`Options.keys_setAll`), and an option has the value it was set to last (`Options.get?_setAll`).

Options are compared by what is read out of them (`Options.equal_iff`). The order in which they were
set is seen in the list of them only.

A query that is made of another one starts with the options of that query, as they are then. What is
set later in the one is not set in the other (`Session.get?_run_settings`).
-/

namespace SqlSelect

/-! ## Maps with the same entries -/

namespace OrderedMap

variable {β : Type}

theorem find?_eq_some_of_mem {es : List (String × β)} (h : (es.map Prod.fst).Nodup)
    {entry : String × β} (hmem : entry ∈ es) :
    (es.find? fun other => other.1 == entry.1) = some entry := by
  induction es with
  | nil => exact absurd hmem List.not_mem_nil
  | cons first es ih =>
    obtain ⟨hfirst, hes⟩ := List.nodup_cons.mp h
    rcases List.mem_cons.mp hmem with rfl | hrest
    · exact List.find?_cons_of_pos (by simp)
    · have hne : first.1 ≠ entry.1 := fun he => hfirst (he ▸ List.mem_map_of_mem hrest)
      rw [List.find?_cons_of_neg (by simpa using hne)]
      exact ih hes hrest

/-- A map lists what is found in it. -/
theorem mem_entries_iff {m : OrderedMap β} {key : String} {value : β} :
    (key, value) ∈ m.entries ↔ m.get? key = some value := by
  rw [get?, Option.map_eq_some_iff]
  constructor
  · intro h
    exact ⟨_, find?_eq_some_of_mem m.distinct h, rfl⟩
  · rintro ⟨⟨found, v⟩, hfind, rfl⟩
    have hkey : found = key := by simpa using List.find?_some hfind
    rw [← hkey]
    exact List.mem_of_find?_eq_some hfind

theorem get?_eq_none_iff {m : OrderedMap β} {key : String} : m.get? key = none ↔ key ∉ m.keys := by
  rw [get?, Option.map_eq_none_iff, List.find?_eq_none, keys, List.mem_map, not_exists]
  simp

/-- A new key goes to the end. -/
theorem put_of_not_mem {key : String} (value : β) : ∀ {es : List (String × β)},
    key ∉ es.map Prod.fst → put key value es = es ++ [(key, value)]
  | [], _ => rfl
  | entry :: es, h => by
    rw [List.map_cons, List.mem_cons, not_or] at h
    rw [put, if_neg (Ne.symm h.1), put_of_not_mem value h.2, List.cons_append]

theorem nodup_entries (m : OrderedMap β) : m.entries.Nodup := .of_map Prod.fst m.distinct

theorem perm_entries_iff {a b : OrderedMap β} :
    a.entries.Perm b.entries ↔ ∀ key, a.get? key = b.get? key := by
  rw [List.perm_ext_iff_of_nodup a.nodup_entries b.nodup_entries]
  constructor
  · intro h key
    refine Option.ext fun value => ?_
    rw [← mem_entries_iff, ← mem_entries_iff]
    exact h (key, value)
  · rintro h ⟨key, value⟩
    rw [mem_entries_iff, mem_entries_iff, h]

/-- **Maps with the same entries are those in which the same is found.** As many entries as in the
other map, and all of them there, leave no entry over. -/
theorem sameEntries_iff [BEq β] [LawfulBEq β] {a b : OrderedMap β} :
    a.sameEntries b = true ↔ ∀ key, a.get? key = b.get? key := by
  rw [← perm_entries_iff, sameEntries, Bool.and_eq_true, beq_iff_eq, List.all_eq_true]
  constructor
  · rintro ⟨hlength, hall⟩
    have hsubset : a.entries ⊆ b.entries := by
      intro entry hentry
      exact mem_entries_iff.mpr (eq_of_beq (hall entry hentry))
    exact (List.subperm_of_subset a.nodup_entries hsubset).perm_of_length_le hlength.ge
  · intro h
    refine ⟨h.length_eq, fun entry hentry => ?_⟩
    rw [beq_iff_eq]
    exact mem_entries_iff.mp (h.mem_iff.mp hentry)

end OrderedMap

/-- One more name goes to the end, if it was not there before. -/
theorem eraseDups_concat (names : List String) (name : String) :
    (names ++ [name]).eraseDups
      = if name ∈ names then names.eraseDups else names.eraseDups ++ [name] := by
  rw [List.eraseDups_append, List.removeAll, List.filter_singleton]
  by_cases h : name ∈ names
  · simp [h]
  · simp [h, List.eraseDups_cons]

/-! ## Setting one option after another -/

/-- The value that an option was set to last. -/
def lastSet (key : String) (sets : List (String × OptionValue)) : Option OptionValue :=
  ((sets.filter fun x => x.1 = key).getLast?).map Prod.snd

theorem lastSet_concat (key : String) (sets : List (String × OptionValue))
    (x : String × OptionValue) :
    lastSet key (sets ++ [x]) = if x.1 = key then some x.2 else lastSet key sets := by
  rw [lastSet, List.filter_append]
  by_cases h : x.1 = key
  · simp [h]
  · simp [h, lastSet]

namespace Options

/-- The names of the options in order. -/
def keys (o : Options) : List String := o.entries.map Prod.fst

/-- Options after some were set, one after another. -/
def setAll (o : Options) (sets : List (String × OptionValue)) : Options :=
  sets.foldl (fun o x => o.set x.1 x.2) o

/-- The value that an option has before it is set. -/
def initial? (key : String) : Option OptionValue :=
  if key = aliasPrefixKey then some (.text "t_")
  else if key = strictKey then some (.bool false)
  else none

variable {o : Options}

theorem setAll_concat (o : Options) (sets : List (String × OptionValue))
    (x : String × OptionValue) : o.setAll (sets ++ [x]) = (o.setAll sets).set x.1 x.2 := by
  rw [setAll, List.foldl_concat]
  rfl

/-- The options as one map. -/
def toMap (o : Options) : OrderedMap OptionValue where
  entries := o.entries
  distinct := by
    have hne : aliasPrefixKey ≠ strictKey := by decide
    refine List.nodup_cons.mpr ⟨?_, List.nodup_cons.mpr ⟨o.extra_keys.2, o.extra.distinct⟩⟩
    rw [List.map_cons, List.mem_cons, not_or]
    exact ⟨hne, o.extra_keys.1⟩

theorem get?_toMap (o : Options) (key : String) : o.toMap.get? key = o.get? key := by
  unfold OrderedMap.get? Options.get? toMap entries
  by_cases ha : key = aliasPrefixKey
  · rw [if_pos ha, List.find?_cons_of_pos (by simpa using ha.symm)]
    rfl
  · rw [if_neg ha, List.find?_cons_of_neg (by simpa using Ne.symm ha)]
    by_cases hs : key = strictKey
    · rw [if_pos hs, List.find?_cons_of_pos (by simpa using hs.symm)]
      rfl
    · rw [if_neg hs, List.find?_cons_of_neg (by simpa using Ne.symm hs)]
      rfl

/-- At first the two options are inserted one after the other. -/
theorem toMap_default :
    ({} : Options).toMap = ((∅ : OrderedMap OptionValue).insert aliasPrefixKey (.text "t_")).insert
      strictKey (.bool false) := by
  ext1
  rfl

/-- To set an option is to insert it into the map. -/
theorem toMap_set (o : Options) (key : String) (value : OptionValue) :
    (o.set key value).toMap = o.toMap.insert key value := by
  have hne : aliasPrefixKey ≠ strictKey := by decide
  ext1
  unfold set toMap entries OrderedMap.insert
  by_cases ha : key = aliasPrefixKey
  · subst ha
    simp [OrderedMap.put]
  · by_cases hs : key = strictKey
    · subst hs
      simp [OrderedMap.put, hne, Ne.symm hne]
    · simp [OrderedMap.put, ha, hs, Ne.symm ha, Ne.symm hs]

/-- **An option has the value it was set to last,** or the one it had at first. -/
theorem get?_setAll (o : Options) (sets : List (String × OptionValue)) (key : String) :
    (o.setAll sets).get? key = (lastSet key sets).or (o.get? key) := by
  induction sets using List.reverseRecOn with
  | nil => rfl
  | append_singleton sets x ih =>
    rw [setAll_concat, get?_set, ih, lastSet_concat]
    split <;> rfl

theorem entries_set (o : Options) (key : String) (value : OptionValue) :
    (o.set key value).entries = OrderedMap.put key value o.entries :=
  congrArg OrderedMap.entries (o.toMap_set key value)

/-- A new name goes to the end, a known one keeps its place. -/
theorem keys_set (o : Options) (key : String) (value : OptionValue) :
    (o.set key value).keys = if key ∈ o.keys then o.keys else o.keys ++ [key] := by
  rw [keys, entries_set, OrderedMap.keys_put]
  rfl

/-- **The names are those that were there and then those that were set, each where it came first.** -/
theorem keys_setAll (o : Options) (sets : List (String × OptionValue)) :
    (o.setAll sets).keys
      = o.keys ++ ((sets.map Prod.fst).filter fun key => key ∉ o.keys).eraseDups := by
  induction sets using List.reverseRecOn with
  | nil => exact (List.append_nil o.keys).symm
  | append_singleton sets x ih =>
    rw [setAll_concat, keys_set, ih, List.map_append, List.filter_append]
    by_cases hkeys : x.1 ∈ o.keys
    · rw [if_pos (List.mem_append_left _ hkeys)]
      simp [hkeys]
    have hnew : ([x].map Prod.fst).filter (fun key => key ∉ o.keys) = [x.1] := by simp [hkeys]
    rw [hnew, eraseDups_concat]
    by_cases hset : x.1 ∈ (sets.map Prod.fst).filter fun key => key ∉ o.keys
    · rw [if_pos hset, if_pos (List.mem_append_right _ (List.mem_eraseDups.mpr hset))]
    · rw [if_neg hset, if_neg, List.append_assoc]
      rw [List.mem_append, List.mem_eraseDups, not_or]
      exact ⟨hkeys, hset⟩

/-! ## Comparing -/

/-- The other options are read off all of them. -/
theorem get?_extra (o : Options) (key : String) :
    o.extra.get? key =
      if key = aliasPrefixKey ∨ key = strictKey then none else o.get? key := by
  split
  · next h =>
    rw [OrderedMap.get?_eq_none_iff]
    rcases h with rfl | rfl
    · exact o.extra_keys.1
    · exact o.extra_keys.2
  · next h =>
    obtain ⟨ha, hs⟩ := not_or.mp h
    rw [get?, if_neg ha, if_neg hs]

/-- **Options are compared by what is read out of them.** -/
theorem equal_iff {a b : Options} : a.equal b = true ↔ ∀ key, a.get? key = b.get? key := by
  rw [equal, Bool.and_eq_true, Bool.and_eq_true, beq_iff_eq, beq_iff_eq,
    OrderedMap.sameEntries_iff]
  constructor
  · rintro ⟨⟨ha, hs⟩, hextra⟩ key
    rw [get?, get?, ha, hs, hextra]
  · intro h
    refine ⟨⟨Option.some.inj (h aliasPrefixKey), Option.some.inj (h strictKey)⟩, fun key => ?_⟩
    rw [a.get?_extra, b.get?_extra, h]

/-- So they are compared as the maps are, in which the order makes no difference. -/
theorem equal_eq_sameEntries (a b : Options) : a.equal b = a.toMap.sameEntries b.toMap := by
  rw [Bool.eq_iff_iff, equal_iff, OrderedMap.sameEntries_iff]
  simp only [get?_toMap]

/-- Two options can be set in either order. -/
theorem equal_set_comm (o : Options) {key key' : String} (h : key ≠ key')
    (value value' : OptionValue) :
    ((o.set key value).set key' value').equal ((o.set key' value').set key value) = true := by
  rw [equal_iff]
  intro other
  simp only [get?_set]
  by_cases hkey : key = other
  · rw [if_pos hkey, if_pos hkey, if_neg (fun hkey' => h (hkey.trans hkey'.symm))]
  · rw [if_neg hkey, if_neg hkey]

/-- New options are listed in the order in which they are set. -/
theorem entries_set_set {o : Options} {key key' : String} (h : key ≠ key') (hkey : key ∉ o.keys)
    (hkey' : key' ∉ o.keys) (value value' : OptionValue) :
    ((o.set key value).set key' value').entries = o.entries ++ [(key, value), (key', value')] := by
  have hset : (o.set key value).entries = o.entries ++ [(key, value)] := by
    rw [entries_set, OrderedMap.put_of_not_mem value hkey]
  have hnew : key' ∉ (o.set key value).keys := by
    rw [keys, hset, List.map_append, List.mem_append, not_or]
    exact ⟨hkey', by simpa using Ne.symm h⟩
  rw [entries_set, OrderedMap.put_of_not_mem value' hnew, hset, List.append_assoc]
  rfl

/-! ## Reading -/

theorem get_eq_ok_iff {o : Options} {key : String} {value : OptionValue} :
    o.get key = .ok value ↔ o.get? key = some value := by
  rw [get]
  cases o.get? key <;> simp

theorem get_eq_get_iff {a b : Options} {key : String} :
    a.get key = b.get key ↔ a.get? key = b.get? key := by
  rw [get, get]
  cases a.get? key <;> cases b.get? key <;> simp

theorem has_iff {o : Options} {key : String} : o.has key = true ↔ key ∈ o.keys := by
  rw [has, ← get?_toMap, Option.isSome_iff_ne_none, Ne, OrderedMap.get?_eq_none_iff,
    Decidable.not_not]
  rfl

/-- An option that was never set is the one there was at first, if there was one. -/
theorem get_setAll (sets : List (String × OptionValue)) (key : String) :
    (({} : Options).setAll sets).get key =
      match (lastSet key sets).or (initial? key) with
      | some value => .ok value
      | none => .error (.undefinedOption key) := by
  rw [get, get?_setAll]
  rfl

/-- A truth value is read where there is one. -/
theorem getBool_eq_ok_iff {o : Options} {key : String} {b : Bool} :
    o.getBool key = .ok b ↔ o.get key = .ok (.bool b) := by
  rw [getBool]
  rcases o.get key with e | ⟨found⟩ | ⟨found⟩ | ⟨found⟩ <;> constructor <;> intro h <;> cases h
  all_goals rfl

/-- A text is read where there is one. -/
theorem getText_eq_ok_iff {o : Options} {key : String} {start : String} :
    o.getText key = .ok start ↔ o.get key = .ok (.text start) := by
  rw [getText]
  rcases o.get key with e | ⟨found⟩ | ⟨found⟩ | ⟨found⟩ <;> constructor <;> intro h <;> cases h
  all_goals rfl

end Options

/-! ## Options of queries -/

namespace Session

variable {s : Session} {name : String} {q : Query}

/-- Steps that set options, each given by a query, a name and a value. -/
def settings (sets : List (String × String × OptionValue)) : List Step :=
  sets.map fun x => .call x.1 (.setOption x.2.1 x.2.2)

/-- Setting options of several queries sets in each of them what is addressed to it. -/
theorem get?_run_settings (sets : List (String × String × OptionValue))
    (hq : s.queries.get? name = some q) :
    (s.run (settings sets)).2.queries.get? name =
      some { q with
        options := q.options.setAll ((sets.filter fun x => x.1 = name).map Prod.snd) } := by
  induction sets generalizing s q with
  | nil => exact hq
  | cons x sets ih =>
    obtain ⟨other, key, value⟩ := x
    by_cases hother : other = name
    · subst hother
      have hresolve : CallRef.resolve s.queries (.setOption key value) = .ok (.setOption key value) :=
        rfl
      have hstep : s.step (.call other (.setOption key value))
          = (.query (q.setOption key value), s.store other (q.setOption key value)) := by
        rw [step_call hq hresolve rfl]
        rfl
      have hnext : (s.step (.call other (.setOption key value))).2.queries.get? other
          = some (q.setOption key value) := by
        rw [hstep]
        exact (OrderedMap.get?_insert _ _ _ _).trans (if_pos rfl)
      rw [List.filter_cons_of_pos (by simp), List.map_cons]
      exact ih hnext
    · have hnext : (s.step (.call other (.setOption key value))).2.queries.get? name = some q :=
        get?_step_of_foreign hq (fun h => hother (Option.some.inj h)) nofun
      rw [List.filter_cons_of_neg (by simpa using hother)]
      exact ih hnext

/-- A query that is made of another one has the options of that one, which stays as it is. -/
theorem get?_step_sub {of : String} {table : TableRef} {t : Table}
    (hq : s.queries.get? of = some q) (ht : table.resolve s.queries = .ok t) (hne : name ≠ of)
    (htaken : table.taken? ≠ some of) :
    (s.step (.sub name of table)).2.queries.get? name = some (q.sub t) ∧
      (s.step (.sub name of table)).2.queries.get? of = some q := by
  constructor
  · rw [step, answer, hq]
    dsimp only
    rw [make, ht]
    exact (OrderedMap.get?_insert _ _ _ _).trans (if_pos rfl)
  · exact get?_step_of_foreign hq (fun h => hne (Option.some.inj h)) htaken

end Session

/-- **Options are an ordered map.** They are one map, into which the two that are always there are
inserted first: to set an option is to insert it, to read one is to look it up, and two sets of
options are compared as maps. Whatever was set, no name occurs twice; the list begins with the
two names that are always there and goes on with the others, each where it was set first, and it lists
what is read. What is read under a name is the value it was set to last, or the one it has at first; a
name that has neither is an invalid argument. The two names can always be read. There is an option
under these two names and those that were set, and it is read as a truth value or as a text where it
is one. A known name keeps its place when it is set again.

Options are equal if and only if the same is read under every name. So it makes no difference which of
two different names is set first, but to the list, if both are new. And a query that is made of
another one has a copy of its options: whichever of the two later settings are addressed to, in
whatever order, they do nothing to the other. -/
theorem Options.ordered_map :
    (({} : Options).toMap = ((∅ : OrderedMap OptionValue).insert aliasPrefixKey (.text "t_")).insert
        strictKey (.bool false) ∧
      (∀ (o : Options) (key : String) (value : OptionValue),
        (o.set key value).toMap = o.toMap.insert key value) ∧
      (∀ (o : Options) (key : String), o.toMap.entries = o.entries ∧ o.toMap.get? key = o.get? key) ∧
      ∀ a b : Options, a.equal b = a.toMap.sameEntries b.toMap) ∧
    (∀ sets : List (String × OptionValue),
      let o := ({} : Options).setAll sets
      o.keys.Nodup ∧
      o.keys = aliasPrefixKey :: strictKey ::
        ((sets.map Prod.fst).filter fun key => key ∉ [aliasPrefixKey, strictKey]).eraseDups ∧
      (∀ key value, (key, value) ∈ o.entries ↔ o.get key = .ok value) ∧
      (∀ key, o.get key =
        match (lastSet key sets).or (initial? key) with
        | some value => .ok value
        | none => .error (.undefinedOption key)) ∧
      (∃ value value', o.get aliasPrefixKey = .ok value ∧ o.get strictKey = .ok value') ∧
      (∀ key, o.has key = true ↔
        key = aliasPrefixKey ∨ key = strictKey ∨ key ∈ sets.map Prod.fst) ∧
      (∀ key b, o.getBool key = .ok b ↔ o.get key = .ok (.bool b)) ∧
      (∀ key start, o.getText key = .ok start ↔ o.get key = .ok (.text start)) ∧
      ∀ key ∈ o.keys, ∀ value, (o.set key value).keys = o.keys) ∧
    (∀ key, (Error.undefinedOption key).isInvalidArgument = true) ∧
    (∀ a b : Options, a.equal b = true ↔ ∀ key, a.get key = b.get key) ∧
    (∀ (o : Options) (key key' : String) (value value' : OptionValue), key ≠ key' →
      ((o.set key value).set key' value').equal ((o.set key' value').set key value) = true ∧
      (key ∉ o.keys → key' ∉ o.keys →
        ((o.set key value).set key' value').entries = o.entries ++ [(key, value), (key', value')] ∧
        ((o.set key value).set key' value').entries
          ≠ ((o.set key' value').set key value).entries)) ∧
    ∀ (s : Session) (name of : String) (q : Query) (table : TableRef) (t : Table),
      s.queries.get? of = some q → table.resolve s.queries = .ok t → name ≠ of →
      table.taken? ≠ some of →
      (q.sub t).options = q.options ∧
      ∀ sets : List (String × String × OptionValue),
        let addressed (called : String) := (sets.filter fun x => x.1 = called).map Prod.snd
        let after := ((s.step (.sub name of table)).2.run (Session.settings sets)).2
        after.queries.get? name
          = some { q.sub t with options := q.options.setAll (addressed name) } ∧
        after.queries.get? of = some { q with options := q.options.setAll (addressed of) } := by
  refine ⟨⟨toMap_default, toMap_set, fun o key => ⟨rfl, o.get?_toMap key⟩, equal_eq_sameEntries⟩,
    ?sets, fun _ => rfl, ?equal, ?order, ?copy⟩
  case sets =>
    intro sets o
    have hkeys : o.keys = aliasPrefixKey :: strictKey ::
        ((sets.map Prod.fst).filter fun key => key ∉ [aliasPrefixKey, strictKey]).eraseDups :=
      keys_setAll {} sets
    refine ⟨o.toMap.distinct, hkeys, ?listed, get_setAll sets, ⟨_, _, rfl, rfl⟩, ?has,
      fun _ _ => getBool_eq_ok_iff, fun _ _ => getText_eq_ok_iff, ?place⟩
    case listed =>
      intro key value
      rw [get_eq_ok_iff, ← get?_toMap, ← OrderedMap.mem_entries_iff]
      rfl
    case has =>
      intro key
      rw [has_iff, hkeys, List.mem_cons, List.mem_cons, List.mem_eraseDups, List.mem_filter]
      by_cases ha : key = aliasPrefixKey
      · simp [ha]
      by_cases hs : key = strictKey
      · simp [hs]
      simp [ha, hs]
    case place =>
      intro key hkey value
      rw [keys_set, if_pos hkey]
  case equal =>
    intro a b
    rw [equal_iff]
    exact forall_congr' fun key => get_eq_get_iff.symm
  case order =>
    intro o key key' value value' h
    refine ⟨o.equal_set_comm h value value', fun hkey hkey' => ?_⟩
    rw [entries_set_set h hkey hkey', entries_set_set h.symm hkey' hkey]
    refine ⟨rfl, fun heq => h ?_⟩
    have hpairs := List.append_cancel_left heq
    exact (Prod.mk.inj (List.cons.inj hpairs).1).1
  case copy =>
    intro s name of q table t hq ht hne htaken
    obtain ⟨hname, hof⟩ := Session.get?_step_sub hq ht hne htaken
    refine ⟨rfl, fun sets => ⟨?_, ?_⟩⟩
    · exact Session.get?_run_settings sets hname
    · exact Session.get?_run_settings sets hof

/-- Two new options in either order, and a query made of another one that refuses orphans. -/
theorem Options.ordered_map_strict :
    let o : Options := ({} : Options).set strictKey (.bool true)
    let x : Options := (o.set "x" (.int 1)).set "y" (.int 2)
    let y : Options := (o.set "y" (.int 2)).set "x" (.int 1)
    (x.equal y = true ∧ x.entries ≠ y.entries) ∧
    ∃ (s : Session) (q after after' : Query),
      s = (Session.run {} [
        .create "a" .plain (.sequence "t") (.given (.name "t")),
        .call "a" (.setOption strictKey (.bool true))]).2 ∧
      s.queries.get? "a" = some q ∧
      (let steps := Session.settings [("b", strictKey, .text "yes"), ("a", "x", .int 1),
          ("b", "y", .int 2)]
        let later := ((s.step (.sub "b" "a" (.tableOf "a"))).2.run steps).2
        later.queries.get? "a" = some after ∧ later.queries.get? "b" = some after') ∧
      after.options.keys = [aliasPrefixKey, strictKey, "x"] ∧
      after.options.getBool strictKey = .ok true ∧
      after'.options.keys = [aliasPrefixKey, strictKey, "y"] ∧
      after'.options.getBool strictKey = .error (.optionNotBool strictKey (.text "yes")) := by
  intro o x y
  obtain ⟨-, -, -, -, horder, hcopy⟩ := ordered_map
  obtain ⟨hequal, hlisted⟩ := horder o "x" "y" (.int 1) (.int 2) (by decide)
  refine ⟨⟨hequal, (hlisted (by decide) (by decide)).2⟩, ?_⟩
  have hq : (Session.run {} [
      .create "a" .plain (.sequence "t") (.given (.name "t")),
      .call "a" (.setOption strictKey (.bool true))]).2.queries.get? "a" = some _ := rfl
  obtain ⟨-, hsets⟩ := hcopy _ "b" "a" _ (.tableOf "a") _ hq rfl (by decide) nofun
  obtain ⟨hsub, hof⟩ := hsets [("b", strictKey, .text "yes"), ("a", "x", .int 1), ("b", "y", .int 2)]
  exact ⟨_, _, _, _, rfl, hq, ⟨hof, hsub⟩, rfl, rfl, rfl, rfl⟩

end SqlSelect

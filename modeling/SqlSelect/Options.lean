import SqlSelect.Error
import SqlSelect.OrderedMap

/-!
# Options

A query carries options that steer its compilation. Two of them are always there: `alias_prefix`,
what the names of derived tables begin with, and `strict`, whether a predicate on groups without
columns to group by is an error. Any other name may be set as well, to be read by others.

The two are fields, so reading them never fails for want of a value. The list of options begins with
them and goes on with the others in the order in which they were first set.
-/

namespace SqlSelect

/-- The name of the option that the names of derived tables begin with. -/
def aliasPrefixKey : String := "alias_prefix"

/-- The name of the option that refuses a predicate on groups without columns. -/
def strictKey : String := "strict"

theorem keys_not_mem_empty : aliasPrefixKey ∉ (∅ : OrderedMap OptionValue).keys ∧
    strictKey ∉ (∅ : OrderedMap OptionValue).keys :=
  ⟨List.not_mem_nil, List.not_mem_nil⟩

/-- The options of a query. -/
structure Options where
  aliasPrefix : OptionValue := .text "t_"
  strict : OptionValue := .bool false
  /-- The options that were set under other names. -/
  extra : OrderedMap OptionValue := ∅
  /-- The names of the two fields are not among the others. -/
  extra_keys : aliasPrefixKey ∉ extra.keys ∧ strictKey ∉ extra.keys := by
    exact keys_not_mem_empty

namespace Options

instance : Inhabited Options := ⟨{}⟩

/-- All options in order. -/
def entries (o : Options) : List (String × OptionValue) :=
  (aliasPrefixKey, o.aliasPrefix) :: (strictKey, o.strict) :: o.extra.entries

/-! ## Setting -/

theorem not_mem_keys_insert {m : OrderedMap OptionValue} {key other : String} (v : OptionValue)
    (h : other ∉ m.keys) (hne : other ≠ key) : other ∉ (m.insert key v).keys := by
  unfold OrderedMap.keys OrderedMap.insert at *
  rw [OrderedMap.keys_put]
  split
  · exact h
  · simp only [List.mem_append, List.mem_singleton, not_or]
    exact ⟨h, hne⟩

/-- An option set to a value: a new name goes to the end, a known one keeps its place. -/
def set (o : Options) (key : String) (value : OptionValue) : Options :=
  if ha : key = aliasPrefixKey then { o with aliasPrefix := value }
  else if hs : key = strictKey then { o with strict := value }
  else
    { o with
      extra := o.extra.insert key value
      extra_keys :=
        ⟨not_mem_keys_insert value o.extra_keys.1 (Ne.symm ha),
          not_mem_keys_insert value o.extra_keys.2 (Ne.symm hs)⟩ }

/-! ## Reading -/

/-- The value of an option, if it has one. -/
def get? (o : Options) (key : String) : Option OptionValue :=
  if key = aliasPrefixKey then some o.aliasPrefix
  else if key = strictKey then some o.strict
  else o.extra.get? key

/-- Whether an option has a value. -/
def has (o : Options) (key : String) : Bool := (o.get? key).isSome

/-- The value of an option, or the error that it has none. -/
def get (o : Options) (key : String) : Except Error OptionValue :=
  match o.get? key with
  | some value => .ok value
  | none => .error (.undefinedOption key)

/-- The truth value of an option. -/
def getBool (o : Options) (key : String) : Except Error Bool := do
  match ← o.get key with
  | .bool b => return b
  | found => throw (.optionNotBool key found)

/-- The text of an option. -/
def getText (o : Options) (key : String) : Except Error String := do
  match ← o.get key with
  | .text s => return s
  | found => throw (.optionNotText key found)

/-- What the names of derived tables begin with is there, and a text or not. -/
theorem getText_aliasPrefix (o : Options) :
    o.getText aliasPrefixKey =
      match o.aliasPrefix with
      | .text start => .ok start
      | found => .error (.optionNotText aliasPrefixKey found) := by
  have hget : o.get aliasPrefixKey = .ok o.aliasPrefix := rfl
  rw [getText, hget]
  cases o.aliasPrefix <;> rfl

theorem aliasPrefix_of_getText {o : Options} {start : String}
    (h : o.getText aliasPrefixKey = .ok start) : o.aliasPrefix = .text start := by
  rw [getText_aliasPrefix] at h
  cases hp : o.aliasPrefix <;> rw [hp] at h <;> cases h
  rfl

/-- Whether orphans are refused is there, and a truth value or not. -/
theorem getBool_strict (o : Options) :
    o.getBool strictKey =
      match o.strict with
      | .bool b => .ok b
      | found => .error (.optionNotBool strictKey found) := by
  have hget : o.get strictKey = .ok o.strict := rfl
  rw [getBool, hget]
  cases o.strict <;> rfl

/-- The value just set is the one that is read; what other options have does not change. -/
theorem get?_set (o : Options) (key other : String) (value : OptionValue) :
    (o.set key value).get? other = if key = other then some value else o.get? other := by
  have hne : aliasPrefixKey ≠ strictKey := by decide
  unfold set
  split
  · next ha =>
    subst ha
    by_cases h : aliasPrefixKey = other
    · simp [get?, h]
    · simp [get?, h, Ne.symm h]
  · next ha =>
    split
    · next hs =>
      subst hs
      by_cases h : strictKey = other
      · subst h
        simp [get?, Ne.symm hne]
      · simp [get?, h, Ne.symm h]
    · next hs =>
      by_cases h : key = other
      · subst h
        simp [get?, ha, hs, OrderedMap.get?_insert]
      · simp [get?, h, OrderedMap.get?_insert]

theorem aliasPrefix_set (o : Options) (key : String) (value : OptionValue) :
    (o.set key value).aliasPrefix = if key = aliasPrefixKey then value else o.aliasPrefix := by
  refine Option.some.inj ?_
  rw [apply_ite some]
  exact o.get?_set key aliasPrefixKey value

/-! ## Comparing -/

/-- Whether two sets of options agree, whatever the order in which they were set. -/
def equal (a b : Options) : Bool :=
  a.aliasPrefix == b.aliasPrefix && a.strict == b.strict && a.extra.sameEntries b.extra

end Options

end SqlSelect

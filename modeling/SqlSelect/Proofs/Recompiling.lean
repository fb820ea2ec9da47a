import SqlSelect.Proofs.Naming

/-!
# Compiling a query again

A query that compiles goes on to compile, and each time to the same values. Whether it compiles to
the same text is another matter: its derived tables get new names each time, and these can be told
from the text.

A name ends in a number, and more text follows it, so two numbers might be made up for by what comes
behind them, as `t1` before `2` is `t12`. They never are. Behind the name of a derived table there is
nothing, a blank or a parenthesis (`Select.endsName_closing`), so the number can be read off the text,
and with it all names of the statement (`Query.textWith_names_iff`).

So a query on a derived table never compiles to the same text twice. Any other query does, and then
the two statements are equal unless one of their values is not a number (`Query.compile_again`).
-/

namespace SqlSelect

/-! ## When statements are equal -/

/-- Whether a value is a floating-point number that is not a number. -/
def Value.isNaN : Value → Bool
  | .float32 bits => BinaryFormat.binary32.isNaN bits.toNat
  | .float64 bits => BinaryFormat.binary64.isNaN bits.toNat
  | _ => false

theorem Value.equal_self (v : Value) : v.equal v = !v.isNaN := by
  cases v with
  | float32 bits | float64 bits => simp [equal, isNaN, BinaryFormat.equal]
  | _ => simp [equal, isNaN]

theorem isEqv_self_iff {α : Type} (eq : α → α → Bool) (as : List α) :
    as.isEqv as eq = true ↔ ∀ a ∈ as, eq a a = true := by
  induction as with
  | nil => simp
  | cons a as ih => simp [List.isEqv, ih]

/-- Statements with the same values are equal if the texts are and every value is a number, or is
none to begin with. -/
theorem Fragment.equal_iff {f g : Fragment} (h : g.values = f.values) :
    f.equal g = true ↔ g.text = f.text ∧ ∀ v ∈ f.values, v.isNaN = false := by
  rw [equal, h, Bool.and_eq_true, beq_iff_eq, isEqv_self_iff, eq_comm]
  simp only [Value.equal_self, Bool.not_eq_true']

/-! ## Reading the names off -/

/-- Of the name of a derived table nothing is up to the caller but the prefix. -/
structure Select.Standard (s : Select) : Prop where
  adapter : s.adapter.Standard
  aliases : s.aliases.Counting

/-- The texts behind the innermost select are the same only if the names in them are. -/
theorem Select.spelled_eq_of_naming : ∀ {ss : List Select}, (∀ s ∈ ss, s.Standard) →
    ∀ {answers answers' : List (Request × Nat)}, answers.map Prod.fst = answers'.map Prod.fst →
      (List.zipWith naming ss (spelled ss answers)).flatten
        = (List.zipWith naming ss (spelled ss answers')).flatten →
      spelled ss answers = spelled ss answers'
  | [], _, _, _, _, _ => rfl
  | _ :: _, _, [], [], _, _ => rfl
  | s :: ss, hs, (request, m) :: answers, (request', n) :: answers', hfst, h => by
    obtain ⟨hhead, htail⟩ := List.forall_mem_cons.mp hs
    obtain ⟨rfl, hrest⟩ := List.cons.inj hfst
    simp only [spelled, List.zipWith_cons_cons, List.flatten_cons, naming, List.append_assoc] at h
    have hends := fun names => s.endsName_closing.append (endsName_naming ss names)
    obtain ⟨rfl, hbehind⟩ := hhead.adapter.quote_spell_inj hhead.aliases (hends _) (hends _)
      (List.append_cancel_left h)
    have ih := spelled_eq_of_naming htail hrest (List.append_cancel_left hbehind)
    simp only [spelled, List.zipWith_cons_cons] at ih ⊢
    rw [ih]

namespace Draws

theorem map_fst_numbered (d : Draws) (requests : List Request) :
    (d.numbered requests).map Prod.fst = requests := by
  induction requests generalizing d with
  | nil => rfl
  | cons request requests ih => rw [numbered, List.map_cons, ih]

theorem count_addAll (d : Draws) (requests : List Request) (source : String) :
    (d.addAll requests).count source
      = d.count source + requests.countP fun request => request.source == source :=
  List.countP_append

end Draws

/-- Selects that ask once more get other names: the first of them does, as its source has answered
at least one request since. -/
theorem Select.spelled_addAll_ne {ss : List Select} {requests : List Request}
    (hs : ∀ s ∈ ss, s.Standard) (hasks : List.Forall₂ Asks ss requests) (hne : ss ≠ [])
    (d : Draws) :
    spelled ss ((d.addAll requests).numbered requests) ≠ spelled ss (d.numbered requests) := by
  cases hasks with
  | nil => exact absurd rfl hne
  | @cons s request ss requests hask hrest =>
    intro h
    have hnumber := (hs s List.mem_cons_self).aliases.spell_inj (List.cons.inj h).1
    rw [Draws.count_addAll, List.countP_cons_of_pos (by simp)] at hnumber
    omega

namespace Query

variable {q : Query}

/-- **A text tells the names in it.** What was drawn before makes another text if and only if it
makes other names. -/
theorem textWith_names_iff (hq : ∀ s ∈ q.levels.dropLast, s.Standard) (d e : Draws) :
    q.textWith (q.names d) = q.textWith (q.names e) ↔ q.names d = q.names e := by
  constructor
  · intro h
    refine Select.spelled_eq_of_naming (fun s hs => hq s (List.mem_reverse.mp hs)) ?_
      (List.append_cancel_left h)
    rw [Draws.map_fst_numbered, Draws.map_fst_numbered]
  · exact congrArg q.textWith

/-- Once a query has drawn its names, its derived tables get other ones. -/
theorem names_addAll_ne (hq : ∀ s ∈ q.levels.dropLast, s.Standard)
    (hcompiles : Select.chainCompiles q.levels = true) (hderived : q.table.isDerived = true)
    (d : Draws) : q.names (d.addAll q.asks) ≠ q.names d := by
  refine Select.spelled_addAll_ne (fun s hs => hq s (List.mem_reverse.mp hs))
    (Select.forall₂_chainAsks hcompiles) ?_ d
  obtain ⟨s, t⟩ := q
  cases t with
  | name n | raw sql => cases hderived
  | derived inner t => simp [levels, Table.levels]

/-- A query on a table that is no query has no names to draw. -/
theorem names_of_not_isDerived (h : q.table.isDerived = false) (d : Draws) : q.names d = [] := by
  obtain ⟨s, t⟩ := q
  cases t with
  | name n | raw sql => rfl
  | derived inner t => cases h

/-- **Compiling a query again.** A query that compiles does so again right away, to the same values
and a text in which nothing but the names of its derived tables is another. If it has a derived
table, the text is another one, whatever the prefixes of the names are. So the two statements are
equal if and only if the query has no derived table and every value is a number, or is none to begin
with. -/
theorem compile_again (hq : ∀ s ∈ q.levels.dropLast, s.Standard) {d e : Draws} {f : Fragment}
    (h : q.compile.run d = (.ok f, e)) :
    ∃ g after, q.compile.run e = (.ok g, after) ∧
      (f.equal g = true ↔ q.table.isDerived = false ∧ ∀ v ∈ f.values, v.isNaN = false) ∧
      g.values = f.values ∧
      (q.table.isDerived = true → g.text ≠ f.text) ∧
      (q.names d).length = q.table.levels.length ∧ f.text = q.textWith (q.names d) ∧
      (q.names e).length = q.table.levels.length ∧ g.text = q.textWith (q.names e) := by
  obtain ⟨vs, hcompile⟩ := q.exists_run_compile
  have hverdict : q.verdict q.table = .ok () := by
    rw [q.toSelect.verdict_of_run_compile q.table d, ← compile, h]
    rfl
  have hdraws := q.draws_compile d
  have hf := hcompile d
  have hg := hcompile e
  rw [h, hverdict] at hf
  rw [hverdict] at hg
  rw [h] at hdraws
  obtain rfl : f = ⟨q.textWith (q.names d), vs⟩ := Except.ok.inj hf
  obtain rfl : e = d.addAll q.asks := hdraws
  have htext : q.table.isDerived = true →
      q.textWith (q.names (d.addAll q.asks)) ≠ q.textWith (q.names d) := by
    intro hderived
    rw [Ne, textWith_names_iff hq]
    exact names_addAll_ne hq (chainCompiles_of_verdict hverdict) hderived d
  refine ⟨⟨q.textWith (q.names (d.addAll q.asks)), vs⟩, _, Prod.ext hg rfl, ?_, rfl, htext,
    length_names hverdict d, rfl, length_names hverdict _, rfl⟩
  refine (Fragment.equal_iff (by rfl)).trans (and_congr_left fun _ => ?_)
  cases hderived : q.table.isDerived with
  | true => simp [htext hderived]
  | false => simp [names_of_not_isDerived hderived]

/-- The ninth name is followed by the tenth, behind a prefix that ends in a digit, and a value is
not a number. -/
theorem compile_again_longer :
    ∃ (q : Query) (d e after : Draws) (f g : Fragment),
      d = ⟨List.replicate 8 ⟨"t", "t_"⟩⟩ ∧
      (∀ s ∈ q.levels.dropLast, s.Standard) ∧
      q.compile.run d = (.ok f, e) ∧
      f = ⟨"SELECT * FROM (SELECT * FROM a WHERE (x = ?)) AS t19 LIMIT 1".toList,
        [.float64 0x7ff8000000000000]⟩ ∧
      q.compile.run e = (.ok g, after) ∧
      (f.equal g = true ↔ q.table.isDerived = false ∧ ∀ v ∈ f.values, v.isNaN = false) ∧
      g.values = [.float64 0x7ff8000000000000] ∧ g.text ≠ f.text := by
  let a : Select :=
    { adapter := .plain, aliases := .sequence "s",
      predicates := [⟨"x = ?".toList, [.float64 0x7ff8000000000000]⟩] }
  let q : Query :=
    { adapter := .plain, aliases := .sequence "t",
      options := Options.set {} aliasPrefixKey (.text "t1"), limit := 1,
      table := .derived a (.name "a") }
  have hq : ∀ s ∈ q.levels.dropLast, s.Standard :=
    List.forall_mem_singleton.mpr ⟨trivial, trivial⟩
  let f : Fragment :=
    ⟨"SELECT * FROM (SELECT * FROM a WHERE (x = ?)) AS t19 LIMIT 1".toList,
      [.float64 0x7ff8000000000000]⟩
  let e : Draws := ⟨List.replicate 8 ⟨"t", "t_"⟩ ++ [⟨"t", "t1"⟩]⟩
  have hrun : q.compile.run ⟨List.replicate 8 ⟨"t", "t_"⟩⟩ = (.ok f, e) := by
    show @Eq (Except Error Fragment × Draws) _ _
    decide +kernel
  obtain ⟨g, after, hagain, hequal, hvalues, htext, -⟩ := compile_again hq hrun
  exact ⟨q, _, e, after, f, g, rfl, hq, hrun, rfl, hagain, hequal, hvalues, htext rfl⟩

end Query

end SqlSelect

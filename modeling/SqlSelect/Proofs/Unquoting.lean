import Mathlib.Data.List.Forall2
import SqlSelect.Adapter

/-!
# Reading quoted names back

A quoted name can be read back. A reader takes one part after another, as long as there is a dot
behind: a part is a bare `*`, or it goes from an opening character to the first closing one that is
not written twice (`Quotes.readName`). What it reads in this way is all that it accepts
(`Quotes.written_of_readName`).

Of a name quoted by a dialect the reader finds the parts, whatever characters are in them, and where
the name ends, whatever comes behind it, but for what would go on with the name: a dot, or one more
closing character (`Dialect.readName_quote`).

## Where a part ends

The empty part is written by an opening and a closing character, which may be the same one. The
reader looks for the double only behind the opening character, so it does not take the two for one
that is in the part.
-/

namespace SqlSelect

namespace Quotes

/-! ## The reader -/

/-- One more character in front of what was read. -/
def prepend (c : Char) : List Char × List Char → List Char × List Char
  | (part, rest) => (c :: part, rest)

/-- Reads behind an opening character, up to the closing one: the part, and what is left. -/
def readQuoted (q : Quotes) : List Char → Option (List Char × List Char)
  | [] => none
  | [c] => if c = q.closing then some ([], []) else none
  | c :: d :: rest =>
    if c ≠ q.closing then (q.readQuoted (d :: rest)).map (prepend c)
    else if d = q.closing then (q.readQuoted rest).map (prepend c)
    else some ([], d :: rest)

/-- Reads a part of a name. -/
def readPart (q : Quotes) : List Char → Option (List Char × List Char)
  | [] => none
  | c :: rest =>
    if c = '*' then some (['*'], rest)
    else if c = q.opening then q.readQuoted rest
    else none

variable {q : Quotes}

theorem readQuoted_of_ne {c : Char} (h : c ≠ q.closing) (rest : List Char) :
    q.readQuoted (c :: rest) = (q.readQuoted rest).map (prepend c) := by
  cases rest with
  | nil => rw [readQuoted, readQuoted, if_neg h, Option.map_none]
  | cons d rest => rw [readQuoted, if_pos h]

/-- Two closing characters stand for one that is in the part. -/
theorem readQuoted_doubled (rest : List Char) :
    q.readQuoted (q.closing :: q.closing :: rest)
      = (q.readQuoted rest).map (prepend q.closing) := by
  rw [readQuoted, if_neg (by simp), if_pos rfl]

/-- A single one ends it. -/
theorem readQuoted_closing {rest : List Char} (h : rest.head? ≠ some q.closing) :
    q.readQuoted (q.closing :: rest) = some ([], rest) := by
  cases rest with
  | nil => rw [readQuoted, if_pos rfl]
  | cons d rest =>
    have hd : d ≠ q.closing := by simpa using h
    rw [readQuoted, if_neg (by simp), if_neg hd]

/-! ## What the reader accepts -/

/-- The ways to write a part: bare if it stands for every column, or between quotes. -/
def Written (q : Quotes) (part text : List Char) : Prop :=
  (part = ['*'] ∧ text = ['*']) ∨ text = q.enclose part

theorem eq_of_readQuoted {text part rest : List Char} (h : q.readQuoted text = some (part, rest)) :
    text = part.flatMap q.quoteChar ++ q.closing :: rest := by
  fun_induction readQuoted q text generalizing part rest with
  | case1 => cases h
  | case2 => cases h; rfl
  | case3 => cases h
  | case4 c d text hc ih =>
    obtain ⟨⟨p, r⟩, hread, heq⟩ := Option.map_eq_some_iff.mp h
    cases heq
    rw [ih hread, List.flatMap_cons, quoteChar, if_neg hc]
    rfl
  | case5 c text hc ih =>
    obtain ⟨⟨p, r⟩, hread, heq⟩ := Option.map_eq_some_iff.mp h
    cases heq
    have hc : c = q.closing := Decidable.not_not.mp hc
    rw [ih hread, List.flatMap_cons, quoteChar, if_pos hc, hc]
    rfl
  | case6 c d text hc hd =>
    cases h
    rw [Decidable.not_not.mp hc]
    rfl

theorem written_of_readPart {text part rest : List Char} (h : q.readPart text = some (part, rest)) :
    ∃ written, q.Written part written ∧ text = written ++ rest := by
  unfold readPart at h
  split at h
  · cases h
  · next c text =>
    split at h
    · next hc =>
      cases h
      exact ⟨['*'], .inl ⟨rfl, rfl⟩, by rw [hc]; rfl⟩
    · split at h
      · next hc =>
        refine ⟨q.enclose part, .inr rfl, ?_⟩
        rw [eq_of_readQuoted h, hc, enclose]
        simp
      · cases h

/-- A part takes at least one character. -/
theorem length_of_readPart {text part rest : List Char} (h : q.readPart text = some (part, rest)) :
    rest.length < text.length := by
  obtain ⟨written, hwritten, rfl⟩ := written_of_readPart h
  have hne : 0 < written.length := by
    rcases hwritten with ⟨-, rfl⟩ | rfl <;> simp [enclose]
  rw [List.length_append]
  omega

/-- Reads a name: its parts, and what is left. It goes on where a dot follows a part. -/
def readName (q : Quotes) (text : List Char) : Option (List (List Char) × List Char) :=
  match h : q.readPart text with
  | none => none
  | some (part, '.' :: rest) =>
    have : rest.length < text.length := Nat.lt_of_succ_lt (length_of_readPart h)
    (q.readName rest).map fun (parts, rest) => (part :: parts, rest)
  | some (part, rest) => some ([part], rest)
termination_by text.length

/-- **A reader accepts written parts with dots between them,** at least one, and nothing else. -/
theorem written_of_readName {text : List Char} {parts : List (List Char)} {rest : List Char}
    (h : q.readName text = some (parts, rest)) :
    ∃ written, written ≠ [] ∧ List.Forall₂ q.Written parts written ∧
      text = ['.'].intercalate written ++ rest := by
  fun_induction readName q text generalizing parts rest with
  | case1 => cases h
  | case2 text part tail hpart hlt ih =>
    obtain ⟨⟨ps, r⟩, hread, heq⟩ := Option.map_eq_some_iff.mp h
    cases heq
    obtain ⟨w, hw, rfl⟩ := written_of_readPart hpart
    obtain ⟨ws, hne, hws, rfl⟩ := ih hread
    refine ⟨w :: ws, List.cons_ne_nil w ws, .cons hw hws, ?_⟩
    rw [List.intercalate_cons_of_ne_nil hne, List.append_assoc, List.append_assoc,
      List.singleton_append]
  | case3 text part tail hdot hpart =>
    cases h
    obtain ⟨w, hw, rfl⟩ := written_of_readPart hpart
    exact ⟨[w], List.cons_ne_nil w [], .cons hw .nil, by rw [List.intercalate_singleton]⟩

end Quotes

variable {dl : Dialect}

/-! ## Reading what a dialect writes -/

theorem Quotes.readQuoted_flatMap {q : Quotes} {rest : List Char} (h : rest.head? ≠ some q.closing) :
    ∀ part : List Char,
      q.readQuoted (part.flatMap q.quoteChar ++ q.closing :: rest) = some (part, rest)
  | [] => readQuoted_closing h
  | c :: part => by
    have ih := readQuoted_flatMap h part
    rw [List.flatMap_cons, quoteChar]
    by_cases hc : c = q.closing
    · rw [if_pos hc, hc, List.append_assoc, List.cons_append, List.cons_append, List.nil_append,
        readQuoted_doubled, ih]
      rfl
    · rw [if_neg hc, List.append_assoc, List.cons_append, List.nil_append, readQuoted_of_ne hc, ih]
      rfl

/-- A part is read back, whatever is in it, if what follows does not go on with it. -/
theorem Dialect.readPart_quotePart (part : List Char) {rest : List Char}
    (h : rest.head? ≠ some dl.quotes.closing) :
    dl.quotes.readPart (dl.quotes.quotePart part ++ rest) = some (part, rest) := by
  have hopen : dl.quotes.opening ≠ '*' := by cases dl <;> decide
  unfold Quotes.quotePart
  split
  · next hpart =>
    rw [hpart]
    rfl
  · rw [Quotes.enclose, List.cons_append, Quotes.readPart, if_neg hopen, if_pos rfl,
      List.append_assoc, List.singleton_append, Quotes.readQuoted_flatMap h]

/-- Behind a part and a dot the reader goes on. -/
theorem Quotes.readName_of_dot {q : Quotes} {text part rest : List Char}
    (h : q.readPart text = some (part, '.' :: rest)) :
    q.readName text = (q.readName rest).map fun (parts, rest) => (part :: parts, rest) := by
  rw [readName]
  split
  · next hnone =>
    rw [h] at hnone
    cases hnone
  · next hpart =>
    rw [h] at hpart
    cases hpart
    rfl
  · next hne hpart =>
    rw [h] at hpart
    cases hpart
    exact absurd rfl (hne rest)

/-- Without a dot behind the part the name is over. -/
theorem Quotes.readName_of_readPart {q : Quotes} {text part rest : List Char}
    (h : q.readPart text = some (part, rest)) (hdot : rest.head? ≠ some '.') :
    q.readName text = some ([part], rest) := by
  rw [readName]
  split
  · next hnone =>
    rw [h] at hnone
    cases hnone
  · next hpart =>
    rw [h] at hpart
    cases hpart
    exact absurd rfl hdot
  · next hpart =>
    rw [h] at hpart
    cases hpart
    rfl

/-- Parts are read back one after another, up to what does not go on with the name. -/
theorem Dialect.readName_parts {rest : List Char} (hclose : rest.head? ≠ some dl.quotes.closing)
    (hdot : rest.head? ≠ some '.') : ∀ {parts : List (List Char)}, parts ≠ [] →
      dl.quotes.readName (['.'].intercalate (parts.map dl.quotes.quotePart) ++ rest)
        = some (parts, rest)
  | [part], _ => by
    rw [List.map_singleton, List.intercalate_singleton]
    exact Quotes.readName_of_readPart (readPart_quotePart part hclose) hdot
  | part :: next :: parts, _ => by
    have ih := readName_parts hclose hdot (List.cons_ne_nil next parts)
    have hnext : '.' ≠ dl.quotes.closing := by cases dl <;> decide
    rw [List.map_cons, List.map_cons, List.intercalate_cons_cons, ← List.map_cons,
      List.append_assoc, List.append_assoc, List.singleton_append]
    rw [Quotes.readName_of_dot (readPart_quotePart part (by simpa using hnext)), ih]
    rfl

theorem Dialect.readName_quote_append (dl : Dialect) (name : List Char) {text : List Char}
    (hclose : text.head? ≠ some dl.quotes.closing) (hdot : text.head? ≠ some '.') :
    dl.quotes.readName (dl.quotes.quote name ++ text) = some (name.splitOn '.', text) :=
  readName_parts hclose hdot (List.splitOn_ne_nil '.' name)

/-- **Quoting can be undone.** Of a quoted name a reader finds the parts and nothing is left; with
dots between them they are the name, so no two names are quoted alike. Whatever comes behind the
name, the reader stops where it ends, unless it is a dot or one more closing character. And all that
a reader accepts as a name is parts that are bare `*` or between quotes, with dots between them. -/
theorem Dialect.readName_quote (dl : Dialect) (name : List Char) :
    dl.quotes.readName (dl.quotes.quote name) = some (name.splitOn '.', []) ∧
      ['.'].intercalate (name.splitOn '.') = name ∧
      (∀ other, dl.quotes.quote other = dl.quotes.quote name → other = name) ∧
      (∀ text : List Char, text.head? ≠ some dl.quotes.closing → text.head? ≠ some '.' →
        dl.quotes.readName (dl.quotes.quote name ++ text) = some (name.splitOn '.', text)) ∧
      ∀ (text : List Char) (parts : List (List Char)) (rest : List Char),
        dl.quotes.readName text = some (parts, rest) →
          ∃ written, written ≠ [] ∧ List.Forall₂ dl.quotes.Written parts written ∧
            text = ['.'].intercalate written ++ rest := by
  have hread : ∀ n : List Char, dl.quotes.readName (dl.quotes.quote n) = some (n.splitOn '.', []) := by
    intro n
    have h : dl.quotes.readName (dl.quotes.quote n ++ []) = some (n.splitOn '.', []) :=
      dl.readName_quote_append n nofun nofun
    rwa [List.append_nil] at h
  refine ⟨hread name, name.intercalate_splitOn '.', ?_, ?_, ?_⟩
  · intro other h
    have hparts : other.splitOn '.' = name.splitOn '.' := by
      have hother := hread other
      rw [h, hread name] at hother
      exact (Prod.mk.inj (Option.some.inj hother)).1.symm
    rw [← other.intercalate_splitOn '.', hparts, name.intercalate_splitOn]
  · intro text hclose hdot
    exact dl.readName_quote_append name hclose hdot
  · intro text parts rest h
    exact Quotes.written_of_readName h

/-- A part that is a quote, an empty part and a bare one, where the two quotes are one character. -/
theorem Dialect.readName_quote_adjacent :
    Dialect.postgres.quotes.quote "\x22..*".toList = "\x22\x22\x22\x22.\x22\x22.*".toList ∧
      Dialect.postgres.quotes.readName "\x22\x22\x22\x22.\x22\x22.* = ?".toList
        = some (["\x22", "", "*"].map String.toList, " = ?".toList) := by
  refine ⟨by decide, ?_⟩
  exact (Dialect.readName_quote .postgres "\x22..*".toList).2.2.2.1 " = ?".toList (by decide)
    (by decide)

end SqlSelect

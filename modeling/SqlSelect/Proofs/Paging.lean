import Mathlib.Algebra.Ring.Nat
import Mathlib.Order.Interval.Finset.Nat
import SqlSelect.Session

/-!
# Pages tile the rows

Skipping the rows of the pages before it, a page takes the rows whose number divided by the length of
a page is its own number (`Page.mem_rows_iff`). So pages of one length do not overlap and leave no row
out. That holds up to the last row whose number is a word of 32 bits; a page beyond it skips as many
rows as a word can say and never starts again with the first ones.
-/

namespace SqlSelect

namespace Page

/-- Whether the number of the first row is a word of 32 bits. -/
def Starts (p : Page) : Prop := p.number.toNat * p.perPage.toNat ≤ 2 ^ 32 - 1

instance (p : Page) : Decidable p.Starts := inferInstanceAs (Decidable (_ ≤ _))

/-- The numbers of the rows that a page shows. -/
def rows (p : Page) : Finset ℕ := Finset.Ico p.offset.toNat (p.offset.toNat + p.limit.toNat)

theorem toNat_offset (p : Page) :
    p.offset.toNat = min (p.number.toNat * p.perPage.toNat) (2 ^ 32 - 1) := by
  have hlt : min (p.number.toNat * p.perPage.toNat) (2 ^ 32 - 1) < 2 ^ 32 :=
    (Nat.min_le_right _ _).trans_lt (by decide)
  exact UInt32.toNat_ofNat_of_lt' hlt

/-- A later page skips more rows, and so does a longer one. -/
theorem offset_le_offset {p p' : Page} (hnumber : p.number ≤ p'.number)
    (hlength : p.perPage ≤ p'.perPage) : p.offset ≤ p'.offset := by
  have hproduct : p.number.toNat * p.perPage.toNat ≤ p'.number.toNat * p'.perPage.toNat :=
    Nat.mul_le_mul (UInt32.le_iff_toNat_le.mp hnumber) (UInt32.le_iff_toNat_le.mp hlength)
  rw [UInt32.le_iff_toNat_le, toNat_offset, toNat_offset]
  omega

/-- A page shows the rows whose number divided by its length is its own number. -/
theorem mem_rows_iff {p : Page} (hp : p.Starts) (hlength : 1 ≤ p.perPage) {k : ℕ} :
    k ∈ p.rows ↔ k / p.perPage.toNat = p.number.toNat := by
  have hpos : 0 < p.perPage.toNat := UInt32.le_iff_toNat_le.mp hlength
  have hoffset : p.offset.toNat = p.number.toNat * p.perPage.toNat := by
    rw [toNat_offset, Nat.min_eq_left hp]
  rw [rows, Finset.mem_Ico, hoffset, limit, Nat.div_eq_iff hpos]
  generalize p.number.toNat * p.perPage.toNat = first
  omega

/-- Pages of one length that start do not overlap. -/
theorem disjoint_rows {p p' : Page} (hp : p.Starts) (hp' : p'.Starts) (hlength : 1 ≤ p.perPage)
    (hsame : p'.perPage = p.perPage) (hne : p.number ≠ p'.number) : Disjoint p.rows p'.rows := by
  rw [Finset.disjoint_left]
  intro k hk hk'
  rw [mem_rows_iff hp hlength] at hk
  rw [mem_rows_iff hp' (hsame ▸ hlength), hsame] at hk'
  exact hne (UInt32.toNat_inj.mp (hk.symm.trans hk'))

/-- Each row whose number is a word of 32 bits is shown by a page that starts. -/
theorem exists_mem_rows {perPage : UInt32} (hlength : 1 ≤ perPage) {k : ℕ} (hk : k ≤ 2 ^ 32 - 1) :
    ∃ number : UInt32, number.toNat = k / perPage.toNat ∧ (Page.mk number perPage).Starts ∧
      k ∈ (Page.mk number perPage).rows := by
  have hword : k < UInt32.size := hk.trans_lt (by decide)
  have hnumber : (UInt32.ofNat (k / perPage.toNat)).toNat = k / perPage.toNat :=
    UInt32.toNat_ofNat_of_lt' ((Nat.div_le_self _ _).trans_lt hword)
  have hstarts : (Page.mk (.ofNat (k / perPage.toNat)) perPage).Starts := by
    rw [Starts, hnumber]
    exact (Nat.div_mul_le_self _ _).trans hk
  exact ⟨_, hnumber, hstarts, (mem_rows_iff hstarts hlength).mpr hnumber.symm⟩

end Page

/-- **Pages tile the rows.** Paging a query takes as many rows as a page has, skips the product of
number and length or the greatest word if that is less, and changes nothing else in the query nor in
the session. A later page never skips fewer rows, nor does a longer one. Of the pages of one length
whose first row has a word for its number no two overlap, and each row that has a word for its number
is in exactly one, that of its quotient. -/
theorem Session.paginate_tiles :
    (∀ (s : Session) (name : String) (q : Query) (p : Page), s.queries.get? name = some q →
      s.step (.call name (.paginate p)) = (.query (q.paginate p), s.store name (q.paginate p))) ∧
    (∀ (q : Query) (p : Page), (q.paginate p).limit = p.perPage ∧
      (q.paginate p).offset.toNat = min (p.number.toNat * p.perPage.toNat) (2 ^ 32 - 1) ∧
      { q.paginate p with limit := q.limit, offset := q.offset } = q) ∧
    (∀ p p' : Page, p.number ≤ p'.number → p.perPage ≤ p'.perPage → p.offset ≤ p'.offset) ∧
    ∀ perPage : UInt32, 1 ≤ perPage →
      (∀ i j : UInt32, (Page.mk i perPage).Starts → (Page.mk j perPage).Starts → i ≠ j →
        Disjoint (Page.mk i perPage).rows (Page.mk j perPage).rows) ∧
      ∀ k : ℕ, k ≤ 2 ^ 32 - 1 → ∃ i : UInt32, i.toNat = k / perPage.toNat ∧
        (Page.mk i perPage).Starts ∧ k ∈ (Page.mk i perPage).rows ∧
        ∀ j : UInt32, (Page.mk j perPage).Starts → k ∈ (Page.mk j perPage).rows → j = i := by
  refine ⟨?step, ?fields, fun p p' => Page.offset_le_offset, fun perPage hlength => ⟨?apart, ?cover⟩⟩
  case step =>
    intro s name q p hq
    have hresolve : CallRef.resolve s.queries (.paginate p) = .ok (.paginate p) := rfl
    rw [step_call hq hresolve rfl]
    rfl
  case fields =>
    intro q p
    exact ⟨rfl, p.toNat_offset, rfl⟩
  case apart =>
    intro i j hi hj hne
    exact Page.disjoint_rows hi hj hlength rfl hne
  case cover =>
    intro k hk
    obtain ⟨i, hi, hstarts, hmem⟩ := Page.exists_mem_rows hlength hk
    refine ⟨i, hi, hstarts, hmem, fun j hj hmem' => ?_⟩
    -- The quotient of the row is the number of every page that shows it.
    have hj' := (Page.mem_rows_iff hj hlength).mp hmem'
    exact UInt32.toNat_inj.mp (hj'.symm.trans hi.symm)

/-- The last row that has a word for its number, on pages of twenty. The page after its own does not
start; the page of the greatest number skips no fewer rows. -/
theorem Session.paginate_tiles_last :
    let q : Query := .new .plain (.sequence "t") (.name "a")
    let s : Session := Session.store {} "q" q
    s.step (.call "q" (.paginate ⟨214748364, 20⟩))
      = (.query (q.paginate ⟨214748364, 20⟩), s.store "q" (q.paginate ⟨214748364, 20⟩)) ∧
    (∃ i : UInt32, i.toNat = 4294967295 / (20 : UInt32).toNat ∧
      4294967295 ∈ (Page.mk i 20).rows) ∧
    Disjoint (Page.mk 214748364 20).rows (Page.mk 0 20).rows ∧
    (Page.mk 214748364 20).offset ≤ (Page.mk 4294967295 20).offset ∧
    ¬ (Page.mk 214748365 20).Starts := by
  obtain ⟨hstep, -, hoffset, htiles⟩ := paginate_tiles
  obtain ⟨hapart, hcover⟩ := htiles 20 (by decide)
  refine ⟨hstep _ _ _ _ rfl, ?_, ?_, hoffset _ _ (by decide) (by decide), by decide⟩
  · obtain ⟨i, hi, -, hmem, -⟩ := hcover 4294967295 (by decide)
    exact ⟨i, hi, hmem⟩
  · exact hapart _ _ (by decide) (by decide) (by decide)

end SqlSelect

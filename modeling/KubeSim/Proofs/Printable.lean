import KubeSim.Proofs.JsonText
import KubeSim.Proofs.Strip

/-! # Printable ASCII on the screen

A printable ASCII character neither joins a character before it nor is joined by one after it, and
it takes one column. So a text of such characters has a glyph of one column for each of its
characters, and a label or a line writes it character by character.
-/

namespace KubeSim

namespace Text

/-- A printable character of ASCII, which may be the blank. -/
def IsPrintable (c : Char) : Prop := 0x20 ≤ c.toNat ∧ c.toNat < 0x7F

instance (c : Char) : Decidable (IsPrintable c) := inferInstanceAs (Decidable (_ ∧ _))

variable {c next : Char} {cs : List Char}

private theorem isPrintable_of_isDigit (digit : c.isDigit = true) : IsPrintable c := by
  simp only [Char.isDigit, Bool.and_eq_true, decide_eq_true_eq, UInt32.le_iff_toNat_le,
    ge_iff_le] at digit
  have low : ('0' : Char).val.toNat = 48 := rfl
  have high : ('9' : Char).val.toNat = 57 := rfl
  simp only [IsPrintable, Char.toNat]
  omega

theorem isPrintable_decimal (n : Nat) : ∀ c ∈ (decimal n).toList, IsPrintable c := by
  intro c digit
  rw [decimal, String.toList_ofList] at digit
  exact isPrintable_of_isDigit (decimalDigits_isDigit n c digit)

namespace Grapheme

private theorem classOf_of_isPrintable (printable : IsPrintable c) : classOf c = .other := by
  obtain ⟨low, high⟩ := printable
  rw [classOf, if_pos (by omega), latinClass, if_neg (by omega), if_neg (by omega),
    if_neg (by omega), if_neg (by omega)]

private theorem joins_start_of_isPrintable (printable : IsPrintable c)
    (printable' : IsPrintable next) :
    (Context.start c).joins next = false := by
  have consonant : isConsonant c = false := by
    have high := printable.2
    simp only [isConsonant, Bool.and_eq_false_iff, decide_eq_false_iff_not]
    omega
  simp [Context.joins, Context.start, classOf_of_isPrintable printable,
    classOf_of_isPrintable printable', consonant, Context.isBreaking, Context.joinsSyllable]

private theorem clustersFrom_of_isPrintable (printable : ∀ d ∈ c :: cs, IsPrintable d) :
    clustersFrom (.start c) c cs = (c :: cs).map ([·]) := by
  induction cs generalizing c with
  | nil => rfl
  | cons next rest ih =>
    have apart := joins_start_of_isPrintable (printable c (by simp)) (printable next (by simp))
    rw [clustersFrom, if_neg (by simp [apart]), List.map_cons,
      ih fun d member => printable d (List.mem_cons_of_mem c member)]

/-- Each character is a cluster of its own. -/
private theorem clusters_of_isPrintable (printable : ∀ c ∈ cs, IsPrintable c) :
    clusters cs = cs.map ([·]) := by
  cases cs with
  | nil => rfl
  | cons c rest => exact clustersFrom_of_isPrintable printable

end Grapheme

private theorem ofCluster_of_isPrintable (printable : IsPrintable c) : Width.ofCluster [c] = 1 := by
  obtain ⟨low, high⟩ := printable
  have ne {other : Char} (far : 0x300 ≤ other.toNat) : c ≠ other := by
    rintro rfl
    omega
  have notTone : Width.isTone c = false := by
    simp only [Width.isTone, Bool.and_eq_false_iff, decide_eq_false_iff_not]
    omega
  have notColored : Width.isColored c = false := by
    simp only [Width.isColored, Bool.and_eq_false_iff, decide_eq_false_iff_not]
    omega
  have notKhmer : Width.isKhmerLetter c = false := by
    simp only [Width.isKhmerLetter, Bool.and_eq_false_iff, decide_eq_false_iff_not]
    omega
  have own : Width.ofChar c = 1 := by
    rw [Width.ofChar, if_pos (by omega), if_neg (by omega)]
  simp [Width.ofCluster, Width.measure, Width.takesBack, Width.before, Width.alone, notTone,
    notColored, notKhmer, own, ne (show 0x300 ≤ Width.emojiSelector.toNat by decide),
    ne (show 0x300 ≤ Width.textSelector.toNat by decide)]

end Text

namespace Screen

open Text (IsPrintable)

def charGlyph (style : Style) (c : Char) : Glyph := ⟨String.ofList [c], 1, style⟩

variable {text : String} {style : Style}

theorem glyphs_of_isPrintable (printable : ∀ c ∈ text.toList, IsPrintable c) :
    Span.glyphs ⟨text, style⟩ = text.toList.map (charGlyph style) := by
  rw [Span.glyphs, Text.Grapheme.clusters_of_isPrintable printable, List.map_map]
  refine List.map_congr_left fun c member => ?_
  rw [Function.comp_apply, Glyph.ofCluster, Text.ofCluster_of_isPrintable (printable c member)]
  rfl

theorem totalWidth_charGlyphs (style : Style) (cs : List Char) :
    totalWidth (cs.map (charGlyph style)) = cs.length := by
  induction cs with
  | nil => rfl
  | cons c rest ih =>
    rw [List.map_cons, totalWidth_cons, ih, List.length_cons, Nat.add_comm]
    rfl

/-- As many characters find room as there are columns, and behind them what else there is room
for. -/
private theorem fit_charGlyphs_append (style : Style) (cs : List Char) (room : Nat)
    (rest : List Glyph) :
    fit room (cs.map (charGlyph style) ++ rest) =
      (cs.take room).map (charGlyph style) ++
        if cs.length ≤ room then fit (room - cs.length) rest else [] := by
  induction cs generalizing room with
  | nil => simp
  | cons c cs ih =>
    cases room with
    | zero => simp [fit, charGlyph]
    | succ room =>
      have more := ih room
      simp only [List.map_cons, List.cons_append, fit, charGlyph, List.take_succ_cons,
        List.length_cons, Nat.add_le_add_iff_right, Nat.add_sub_add_right, Nat.le_add_left, if_true,
        Nat.add_sub_cancel] at more ⊢
      exact congrArg _ more

theorem labelGlyphs_of_isPrintable (printable : ∀ c ∈ text.toList, IsPrintable c) :
    labelGlyphs text style = text.toList.map (charGlyph style) := by
  rw [labelGlyphs, glyphs_of_isPrintable printable, List.filter_eq_self]
  intro glyph member
  obtain ⟨c, listed, rfl⟩ := List.mem_map.mp member
  obtain ⟨low, high⟩ := printable c listed
  have notControl : isControl c = false := by
    simp only [isControl, Bool.or_eq_false_iff, Bool.and_eq_false_iff, decide_eq_false_iff_not]
    omega
  simp [charGlyph, notControl]

/-- The marks of what follows in a line of which the first columns are taken. -/
def restMarks (width taken : Nat) (others : List Span) : List (Option Mark) :=
  if taken ≤ width then
    (fit (width - taken) ((others.flatMap Span.glyphs).filter fun glyph =>
      glyph.symbol ≠ "\n" && glyph.width ≤ width)).flatMap (Glyph.marks none)
  else []

/-- A line that starts with such a text writes it character by character, as far as there is room,
and then what follows in the room that is left. -/
theorem lineMarks_of_isPrintable {width : Nat} (wide : 0 < width)
    (printable : ∀ c ∈ text.toList, IsPrintable c) (style : Style) (others : List Span) :
    lineMarks width (⟨text, style⟩ :: others) =
      ((text.toList.take width).map fun c => some (.write (String.ofList [c]) style)) ++
        restMarks width text.toList.length others := by
  have kept : (text.toList.map (charGlyph style)).filter
      (fun glyph => glyph.symbol ≠ "\n" && glyph.width ≤ width) =
      text.toList.map (charGlyph style) := by
    rw [List.filter_eq_self]
    intro glyph member
    obtain ⟨c, listed, rfl⟩ := List.mem_map.mp member
    have noFeed : (charGlyph style c).symbol ≠ "\n" := by
      intro feed
      have chars : [c] = ['\n'] := by simpa [charGlyph] using congrArg String.toList feed
      obtain rfl := List.singleton_inj.mp chars
      exact absurd (printable _ listed) (by decide)
    have narrow : (charGlyph style c).width ≤ width := wide
    simp [noFeed, narrow]
  rw [lineMarks, rowGlyphs, List.flatMap_cons, glyphs_of_isPrintable printable, List.filter_append,
    kept, fit_charGlyphs_append, List.flatMap_append, List.flatMap_map, List.map_eq_flatMap,
    restMarks]
  split <;> rfl

end Screen

end KubeSim

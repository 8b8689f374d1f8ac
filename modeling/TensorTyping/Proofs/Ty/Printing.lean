import Mathlib.Data.List.Nodup
import TensorTyping.Proofs.Ty.Same

/-!
# Reading printed types

A printed type begins with a heading, a word without brackets and commas that tells which type it
is. Integers, predicates, floats and tokens are their headings; the other types go on with their
parts in angle brackets. A heading ends at the first bracket or comma and a mark of a tensor's shape
at the first `x`, so a printed type can be told from whatever stands behind it. Types that hold no
quantized type are therefore equal when they print alike. The scale of a quantized type is printed
with six digits, which do not determine it.
-/

namespace TensorTyping

/-- A word of one class of characters ends where the first other character stands. -/
theorem append_inj_of_ends {α : Type} {inside : α → Bool} {word word' rest rest' : List α}
    (hword : ∀ x ∈ word, inside x = true) (hword' : ∀ x ∈ word', inside x = true)
    (hrest : ∀ x ∈ rest.head?, inside x = false) (hrest' : ∀ x ∈ rest'.head?, inside x = false)
    (same : word ++ rest = word' ++ rest') : word = word' ∧ rest = rest' := by
  have ended {tail : List α} (outside : ∀ x ∈ tail.head?, inside x = false) :
      tail.takeWhile inside = [] := by
    cases tail with
    | nil => rfl
    | cons x tail => simp [outside x rfl]
  have words := congrArg (List.takeWhile inside) same
  rw [List.takeWhile_append_of_pos hword, List.takeWhile_append_of_pos hword', ended hrest,
    ended hrest', List.append_nil, List.append_nil] at words
  subst words
  exact ⟨rfl, List.append_cancel_left same⟩

/-! ### Marks of a shape -/

/-- A character of the printed form of an integer. -/
def isNumeralChar (x : Char) : Bool := x.isDigit || x == '-'

/-- A character that the extents of a printed shape are written with. -/
def isMarkChar (x : Char) : Bool := isNumeralChar x || x == '?' || x == '*'

/-- The text is a word of such characters. -/
def IsMark (mark : String) : Prop := mark ≠ "" ∧ ∀ x ∈ mark.toList, isMarkChar x = true

theorem isDigit_of_mem_natRepr {n : Nat} {x : Char} (member : x ∈ n.repr.toList) :
    x.isDigit = true := by
  rw [Nat.repr_eq_ofList_toDigits, String.toList_ofList] at member
  exact Nat.isDigit_of_mem_toDigits (by decide) (by decide) member

theorem isNumeralChar_of_mem_natRepr {n : Nat} {x : Char} (member : x ∈ n.repr.toList) :
    isNumeralChar x = true := by
  rw [isNumeralChar, isDigit_of_mem_natRepr member, Bool.true_or]

theorem natRepr_injective : Function.Injective Nat.repr := by
  intro m n same
  rw [Nat.repr_eq_ofList_toDigits, Nat.repr_eq_ofList_toDigits] at same
  rw [← @Nat.ofDigitChars_ten_toDigits m, String.ofList_injective same,
    Nat.ofDigitChars_ten_toDigits]

theorem intRepr_injective : Function.Injective Int.repr := by
  have signed (k : Nat) (rest : String) : k.repr ≠ "-" ++ rest := by
    intro same
    have digit : Char.isDigit '-' = true :=
      isDigit_of_mem_natRepr (n := k) (by simp [same, String.toList_append])
    exact absurd digit (by decide)
  intro m n same
  rw [Int.repr_eq_if, Int.repr_eq_if] at same
  split at same <;> split at same
  · have equal := natRepr_injective same
    omega
  · exact absurd same (signed _ _)
  · exact absurd same.symm (signed _ _)
  · rw [← String.toList_inj, String.toList_append, String.toList_append] at same
    have equal := natRepr_injective (String.toList_inj.mp (List.append_cancel_left same))
    omega

theorem isNumeralChar_of_mem_repr {n : Int} {x : Char} (member : x ∈ n.repr.toList) :
    isNumeralChar x = true := by
  rw [Int.repr_eq_if] at member
  split at member
  · exact isNumeralChar_of_mem_natRepr member
  · rw [String.toList_append, List.mem_append] at member
    rcases member with minus | digit
    · obtain rfl : x = '-' := by simpa using minus
      rfl
    · exact isNumeralChar_of_mem_natRepr digit

namespace Extent

theorem isMark_mark (dim : Extent) : IsMark dim.mark := by
  cases dim with
  | none => exact ⟨by simp [mark], by simp [mark, isMarkChar]⟩
  | some n =>
    refine ⟨fun empty => ?_, fun x member => ?_⟩
    · change n.repr = "" at empty
      rw [Int.repr_eq_if] at empty
      split at empty
      · exact Nat.repr_ne_empty empty
      · simp at empty
    · simp [isMarkChar, isNumeralChar_of_mem_repr member]

/-- A known extent is printed with the characters of a number only. -/
theorem mark_some_ne {x : Char} (other : isNumeralChar x = false) (n : Int) :
    mark (some n) ≠ String.singleton x := by
  intro same
  have member : x ∈ n.repr.toList := by
    change n.repr = String.singleton x at same
    simp [same]
  rw [isNumeralChar_of_mem_repr member] at other
  cases other

theorem mark_injective : Function.Injective mark := by
  have question : isNumeralChar '?' = false := rfl
  intro dim dim' same
  cases dim with
  | none =>
    cases dim' with
    | none => rfl
    | some n => exact absurd same.symm (mark_some_ne question n)
  | some m =>
    cases dim' with
    | none => exact absurd same (mark_some_ne question m)
    | some n => exact congrArg some (intRepr_injective same)

end Extent

/-- A text that does not begin with the character of a mark does not begin with a mark. -/
theorem IsMark.ne_append {mark : String} (hmark : IsMark mark) {rest : List Char}
    (hrest : ∀ x ∈ rest.head?, isMarkChar x = false) (others : List Char) :
    rest ≠ mark.toList ++ others := by
  obtain ⟨first, word, split⟩ := List.exists_cons_of_ne_nil (mt String.toList_eq_nil_iff.mp hmark.1)
  rintro rfl
  have inside := hmark.2 first (by simp [split])
  rw [hrest first (by simp [split])] at inside
  cases inside

/-- The marks as they are printed, each with an `x` behind it. -/
def marksText (marks : List String) : List Char := marks.flatMap fun mark => mark.toList ++ ['x']

theorem marksText_nil_append (rest : List Char) : marksText [] ++ rest = rest := rfl

theorem marksText_cons_append (mark : String) (marks : List String) (rest : List Char) :
    marksText (mark :: marks) ++ rest = mark.toList ++ 'x' :: (marksText marks ++ rest) := by
  simp [marksText]

/-- Marks end where the first character stands that is neither of a mark nor an `x` behind one. -/
theorem marksText_append_inj {marks marks' : List String} {rest rest' : List Char}
    (hmarks : ∀ mark ∈ marks, IsMark mark) (hmarks' : ∀ mark ∈ marks', IsMark mark)
    (hrest : ∀ x ∈ rest.head?, isMarkChar x = false)
    (hrest' : ∀ x ∈ rest'.head?, isMarkChar x = false)
    (same : marksText marks ++ rest = marksText marks' ++ rest') :
    marks = marks' ∧ rest = rest' := by
  induction marks generalizing marks' with
  | nil =>
    cases marks' with
    | nil => exact ⟨rfl, same⟩
    | cons mark' marks' =>
      rw [marksText_nil_append, marksText_cons_append] at same
      exact absurd same ((hmarks' mark' List.mem_cons_self).ne_append hrest _)
  | cons mark marks ih =>
    cases marks' with
    | nil =>
      rw [marksText_nil_append, marksText_cons_append] at same
      exact absurd same.symm ((hmarks mark List.mem_cons_self).ne_append hrest' _)
    | cons mark' marks' =>
      rw [List.forall_mem_cons] at hmarks hmarks'
      rw [marksText_cons_append, marksText_cons_append] at same
      obtain ⟨first, others⟩ := append_inj_of_ends hmarks.1.2 hmarks'.1.2
        (by simp [isMarkChar, isNumeralChar]) (by simp [isMarkChar, isNumeralChar]) same
      obtain ⟨rfl, rest⟩ := ih hmarks.2 hmarks'.2 (List.cons.inj others).2
      exact ⟨by rw [String.toList_injective first], rest⟩

namespace Shape

/-- The marks in front of the element type of a printed tensor. -/
def marks : Shape → List String
  | .unranked => ["*"]
  | .ranked dims => dims.map Extent.mark

theorem isMark_of_mem_marks {s : Shape} : ∀ mark ∈ s.marks, IsMark mark := by
  intro mark member
  cases s with
  | unranked =>
    obtain rfl : mark = "*" := by simpa [marks] using member
    exact ⟨by simp, by simp [isMarkChar]⟩
  | ranked dims =>
    obtain ⟨dim, -, rfl⟩ := List.mem_map.mp member
    exact dim.isMark_mark

theorem marks_injective : Function.Injective marks := by
  have differ (dims : List Extent) : dims.map Extent.mark ≠ ["*"] := by
    intro same
    obtain ⟨dim, rfl, star⟩ := List.map_eq_singleton_iff.mp same
    cases dim with
    | none => simp [Extent.mark] at star
    | some n => exact Extent.mark_some_ne (x := '*') rfl n star
  intro s s' same
  cases s with
  | unranked =>
    cases s' with
    | unranked => rfl
    | ranked dims => exact absurd same.symm (differ dims)
  | ranked dims =>
    cases s' with
    | unranked => exact absurd same (differ dims)
    | ranked dims' => exact congrArg ranked (List.map_injective_iff.mpr Extent.mark_injective same)

end Shape

/-! ### Headings -/

/-- The word that a printed type begins with. -/
inductive Heading where
  | int (width : IntWidth) (signed : Bool)
  | bool
  | float (format : FloatFormat)
  | complex | quantized | tensor | tuple | token | missing
  deriving DecidableEq

namespace Heading

/-- The word itself. -/
def text : Heading → String
  | .int width signed => (if signed then "i" else "ui") ++ toString width.bits
  | .bool => "i1"
  | .float format => format.name
  | .complex => "complex"
  | .quantized => "!quant.uniform"
  | .tensor => "tensor"
  | .tuple => "tuple"
  | .token => "!token"
  | .missing => "None"

/-- All headings. -/
def all : List Heading :=
  let widths : List IntWidth := [.w2, .w4, .w8, .w16, .w32, .w64]
  let formats : List FloatFormat := [.f8E4M3FN, .f8E5M2, .bf16, .f16, .f32, .f64]
  let words : List Heading := [bool, complex, quantized, tensor, tuple, token, missing]
  widths.map (int · true) ++ widths.map (int · false) ++ formats.map float ++ words

theorem mem_all (heading : Heading) : heading ∈ all := by
  cases heading with
  | int width signed => cases width <;> cases signed <;> decide
  | float format => cases format <;> decide
  | _ => decide

theorem text_injective : Function.Injective text := by
  have distinct : (all.map text).Nodup := by decide +kernel
  intro a b same
  exact List.inj_on_of_nodup_map distinct (mem_all a) (mem_all b) same

/-- A character that may stand in a heading, which holds no brackets and commas. -/
def isNameChar (x : Char) : Bool := x != '<' && x != '>' && x != ','

theorem isNameChar_of_isNumeralChar {x : Char} (numeral : isNumeralChar x = true) :
    isNameChar x = true := by
  have outside :
      isNumeralChar '<' = false ∧ isNumeralChar '>' = false ∧ isNumeralChar ',' = false :=
    ⟨rfl, rfl, rfl⟩
  simp only [isNameChar, Bool.and_eq_true, bne_iff_ne]
  refine ⟨⟨?_, ?_⟩, ?_⟩ <;> rintro rfl <;> simp_all

theorem isNameChar_of_mem_text (heading : Heading) :
    ∀ x ∈ heading.text.toList, isNameChar x = true := by
  cases heading with
  | int width signed =>
    have digits (x : Char) (member : x ∈ width.bits.repr.toList) : isNameChar x = true :=
      isNameChar_of_isNumeralChar (isNumeralChar_of_mem_natRepr member)
    have letters : isNameChar 'u' = true ∧ isNameChar 'i' = true := ⟨rfl, rfl⟩
    cases signed <;> simpa [text, letters] using digits
  | float format => cases format <;> simp [text, isNameChar, FloatFormat.name]
  | _ => simp [text, isNameChar]

/-- No heading begins like an extent. -/
theorem exists_text_eq_cons (heading : Heading) :
    ∃ first others, heading.text.toList = first :: others ∧ isMarkChar first = false := by
  cases heading with
  | int width signed => cases signed <;> simp [text, isMarkChar, isNumeralChar]
  | float format => cases format <;> simp [text, isMarkChar, isNumeralChar, FloatFormat.name]
  | _ => simp [text, isMarkChar, isNumeralChar]

end Heading

namespace Ty

open Heading (isNameChar)

/-- The heading of a type. -/
def heading : Ty → Heading
  | .int width signed => .int width signed
  | .bool => .bool
  | .float format => .float format
  | .complex _ => .complex
  | .quantized .. => .quantized
  | .tensor .. => .tensor
  | .tuple _ => .tuple
  | .token => .token
  | .missing => .missing

/-- What a printed type has behind its heading. -/
def body : Ty → String
  | .complex component => "<" ++ component.name ++ ">"
  | .quantized storage expressed scale zeroPoint =>
      "<" ++ storage.render ++ ":" ++ expressed.render ++ ", " ++ scale.scaleText ++ ":" ++
        toString zeroPoint ++ ">"
  | .tensor element shape => "<" ++ tensorText shape element.render ++ ">"
  | .tuple items => "<" ++ ", ".intercalate (render.renderAll items) ++ ">"
  | _ => ""

theorem render_eq (t : Ty) : t.render = t.heading.text ++ t.body := by
  cases t with
  | complex component =>
    change "complex<" ++ component.name ++ ">" = _
    simp [heading, body, Heading.text, ← String.append_assoc]
  | quantized storage expressed scale zeroPoint =>
    change "!quant.uniform<" ++ storage.render ++ ":" ++ expressed.render ++ ", " ++
      scale.scaleText ++ ":" ++ toString zeroPoint ++ ">" = _
    simp [heading, body, Heading.text, ← String.append_assoc]
  | tensor element shape =>
    change "tensor<" ++ tensorText shape element.render ++ ">" = _
    simp [heading, body, Heading.text, ← String.append_assoc]
  | tuple items =>
    change "tuple<" ++ ", ".intercalate (render.renderAll items) ++ ">" = _
    simp [heading, body, Heading.text, ← String.append_assoc]
  | _ => exact String.append_empty.symm

/-- The text does not go on with a heading that stands before it. -/
def Stops (rest : List Char) : Prop := ∀ x ∈ rest.head?, isNameChar x = false

theorem stops_cons {x : Char} {rest : List Char} : Stops (x :: rest) ↔ isNameChar x = false := by
  simp [Stops]

theorem stops_body_append (t : Ty) {rest : List Char} (stops : Stops rest) :
    Stops (t.body.toList ++ rest) := by
  cases t <;> simp [body, stops_cons, isNameChar, stops]

theorem heading_eq_and_body_eq {t u : Ty} {rest rest' : List Char} (stops : Stops rest)
    (stops' : Stops rest') (same : t.render.toList ++ rest = u.render.toList ++ rest') :
    t.heading = u.heading ∧ t.body.toList ++ rest = u.body.toList ++ rest' := by
  rw [render_eq, render_eq, String.toList_append, String.toList_append, List.append_assoc,
    List.append_assoc] at same
  obtain ⟨words, bodies⟩ := append_inj_of_ends t.heading.isNameChar_of_mem_text
    u.heading.isNameChar_of_mem_text (stops_body_append t stops) (stops_body_append u stops') same
  exact ⟨Heading.text_injective (String.toList_injective words), bodies⟩

theorem exists_render_eq_cons (t : Ty) : ∃ first others, t.render.toList = first :: others ∧
    isNameChar first = true ∧ isMarkChar first = false := by
  obtain ⟨first, others, split, begins⟩ := t.heading.exists_text_eq_cons
  refine ⟨first, others ++ t.body.toList, ?_, ?_, begins⟩
  · rw [render_eq, String.toList_append, split, List.cons_append]
  · exact t.heading.isNameChar_of_mem_text first (by simp [split])

/-! ### Types that hold no quantized type -/

/-- No part of the type is quantized. -/
def isUnquantized : Ty → Bool
  | .quantized .. => false
  | .tensor element _ => element.isUnquantized
  | .tuple items => allUnquantized items
  | _ => true
where
  /-- No part of an item of a tuple is quantized. -/
  allUnquantized : List Ty → Bool
  | [] => true
  | item :: rest => item.isUnquantized && allUnquantized rest

theorem allUnquantized_iff {items : List Ty} :
    isUnquantized.allUnquantized items = true ↔ ∀ item ∈ items, item.isUnquantized = true := by
  induction items with
  | nil => simp [isUnquantized.allUnquantized]
  | cons item rest ih => simp [isUnquantized.allUnquantized, ih]

/-- The printed type can be told from whatever stands behind it. -/
def Readable (t : Ty) : Prop :=
  ∀ ⦃u : Ty⦄ ⦃rest rest' : List Char⦄, u.isUnquantized = true → Stops rest → Stops rest' →
    t.render.toList ++ rest = u.render.toList ++ rest' → t = u ∧ rest = rest'

theorem eq_of_heading_eq {t u : Ty} (empty : t.body = "") (same : t.heading = u.heading) :
    t = u := by
  cases t <;> cases u <;> simp_all [heading, body]

theorem readable_of_body_eq_empty {t : Ty} (empty : t.body = "") : t.Readable := by
  intro u rest rest' _ stops stops' same
  obtain ⟨heads, bodies⟩ := heading_eq_and_body_eq stops stops' same
  obtain rfl := eq_of_heading_eq empty heads
  exact ⟨rfl, List.append_cancel_left bodies⟩

theorem readable_complex (component : FloatFormat) : (Ty.complex component).Readable := by
  intro u rest rest' _ stops stops' same
  obtain ⟨heads, bodies⟩ := heading_eq_and_body_eq stops stops' same
  cases u with
  | complex component' =>
    have bodies : component.name.toList ++ '>' :: rest =
        component'.name.toList ++ '>' :: rest' := by
      simpa [body] using bodies
    -- A component is printed as its float type is.
    have readable : (Ty.float component).Readable := readable_of_body_eq_empty rfl
    obtain ⟨components, closing⟩ :=
      readable (u := .float component') rfl (stops_cons.mpr rfl) (stops_cons.mpr rfl) bodies
    cases components
    exact ⟨rfl, (List.cons.inj closing).2⟩
  | _ => cases heads

theorem toList_tensorText (shape : Shape) (element : String) :
    (tensorText shape element).toList = marksText shape.marks ++ element.toList := by
  cases shape with
  | unranked => simp [tensorText, marksText, Shape.marks]
  | ranked dims =>
    simp [tensorText, marksText, Shape.marks, String.toList_join, List.flatMap_map]

theorem readable_tensor {element : Ty} (readable : element.Readable) (shape : Shape) :
    (Ty.tensor element shape).Readable := by
  intro u rest rest' formed stops stops' same
  obtain ⟨heads, bodies⟩ := heading_eq_and_body_eq stops stops' same
  cases u with
  | tensor element' shape' =>
    have begins (t : Ty) (rest : List Char) :
        ∀ x ∈ (t.render.toList ++ rest).head?, isMarkChar x = false := by
      obtain ⟨first, others, split, -, begins⟩ := t.exists_render_eq_cons
      simpa [split] using begins
    have bodies : marksText shape.marks ++ (element.render.toList ++ '>' :: rest) =
        marksText shape'.marks ++ (element'.render.toList ++ '>' :: rest') := by
      simpa [body, toList_tensorText] using bodies
    obtain ⟨marks, elements⟩ := marksText_append_inj shape.isMark_of_mem_marks
      shape'.isMark_of_mem_marks (begins _ _) (begins _ _) bodies
    obtain ⟨rfl, closing⟩ :=
      readable (u := element') formed (stops_cons.mpr rfl) (stops_cons.mpr rfl) elements
    obtain rfl := Shape.marks_injective marks
    exact ⟨rfl, (List.cons.inj closing).2⟩
  | _ => cases heads

/-- The items of a printed tuple behind its first one. -/
def laterText (items : List Ty) : List Char :=
  items.flatMap fun item => ',' :: ' ' :: item.render.toList

/-- The items of a printed tuple. -/
def itemsText : List Ty → List Char
  | [] => []
  | first :: later => first.render.toList ++ laterText later

theorem laterText_cons (first : Ty) (later : List Ty) :
    laterText (first :: later) = ',' :: ' ' :: itemsText (first :: later) := rfl

theorem toList_intercalate_renderAll (items : List Ty) :
    (", ".intercalate (render.renderAll items)).toList = itemsText items := by
  cases items with
  | nil => rfl
  | cons first later =>
    induction later generalizing first with
    | nil => simp [render.renderAll, itemsText, laterText]
    | cons second later ih =>
      rw [render.renderAll, render.renderAll, String.intercalate_cons_cons, String.toList_append,
        ← render.renderAll, ih second]
      simp [itemsText, laterText]

theorem stops_laterText (items : List Ty) (rest : List Char) :
    Stops (laterText items ++ '>' :: rest) := by
  cases items <;> exact stops_cons.mpr rfl

theorem laterText_append_inj {items items' : List Ty} {rest rest' : List Char}
    (readable : ∀ item ∈ items, item.Readable)
    (formed : ∀ item ∈ items', item.isUnquantized = true)
    (same : laterText items ++ '>' :: rest = laterText items' ++ '>' :: rest') :
    items = items' ∧ rest = rest' := by
  induction items generalizing items' with
  | nil =>
    cases items' with
    | nil => simpa [laterText] using same
    | cons item' items' => simp [laterText] at same
  | cons item items ih =>
    cases items' with
    | nil => simp [laterText] at same
    | cons item' items' =>
      rw [List.forall_mem_cons] at readable formed
      have same : item.render.toList ++ (laterText items ++ '>' :: rest) =
          item'.render.toList ++ (laterText items' ++ '>' :: rest') := by
        simpa [laterText_cons, itemsText] using same
      obtain ⟨rfl, others⟩ :=
        readable.1 formed.1 (stops_laterText items rest) (stops_laterText items' rest') same
      obtain ⟨rfl, rfl⟩ := ih readable.2 formed.2 others
      exact ⟨rfl, rfl⟩

theorem itemsText_append_inj {items items' : List Ty} {rest rest' : List Char}
    (readable : ∀ item ∈ items, item.Readable)
    (formed : ∀ item ∈ items', item.isUnquantized = true)
    (same : itemsText items ++ '>' :: rest = itemsText items' ++ '>' :: rest') :
    items = items' ∧ rest = rest' := by
  -- A bracket that closes the tuple is not the beginning of an item.
  have closes (t : Ty) (others rest : List Char) : t.render.toList ++ others ≠ '>' :: rest := by
    obtain ⟨first, others, split, name, -⟩ := t.exists_render_eq_cons
    rw [split]
    rintro ⟨⟩
    cases name
  cases items with
  | nil =>
    cases items' with
    | nil => exact ⟨rfl, (List.cons.inj same).2⟩
    | cons first' later' =>
      rw [itemsText, itemsText, List.append_assoc] at same
      exact (closes _ _ _ same.symm).elim
  | cons first later =>
    cases items' with
    | nil =>
      rw [itemsText, itemsText, List.append_assoc] at same
      exact (closes _ _ _ same).elim
    | cons first' later' =>
      apply laterText_append_inj readable formed
      rw [laterText_cons, laterText_cons, List.cons_append, List.cons_append, List.cons_append,
        List.cons_append, same]

theorem readable_tuple {items : List Ty} (readable : ∀ item ∈ items, item.Readable) :
    (Ty.tuple items).Readable := by
  intro u rest rest' formed stops stops' same
  obtain ⟨heads, bodies⟩ := heading_eq_and_body_eq stops stops' same
  cases u with
  | tuple items' =>
    rw [isUnquantized, allUnquantized_iff] at formed
    have bodies : itemsText items ++ '>' :: rest = itemsText items' ++ '>' :: rest' := by
      simpa [body, ← toList_intercalate_renderAll] using bodies
    obtain ⟨rfl, rfl⟩ := itemsText_append_inj readable formed bodies
    exact ⟨rfl, rfl⟩
  | _ => cases heads

theorem readable_of_isUnquantized {t : Ty} (formed : t.isUnquantized = true) : t.Readable := by
  -- Behind a part of a type stands the rest of that type, so the induction has to allow any rest.
  induction t using induct with
  | complex component => exact readable_complex component
  | quantized => cases formed
  | tensor element shape ih => exact readable_tensor (ih formed) shape
  | tuple items ih =>
    rw [isUnquantized, allUnquantized_iff] at formed
    exact readable_tuple fun item member => ih item member (formed item member)
  | _ => exact readable_of_body_eq_empty rfl

/-- Types that hold no quantized type are printed alike just when they are equal. -/
theorem render_inj {t u : Ty} (ht : t.isUnquantized = true) (hu : u.isUnquantized = true) :
    t.render = u.render ↔ t = u := by
  constructor
  · intro same
    have same : t.render.toList ++ [] = u.render.toList ++ [] := by rw [same]
    exact (readable_of_isUnquantized ht hu (by simp [Stops]) (by simp [Stops]) same).1
  · rintro rfl
    rfl

/-- Two tokens are grouped in two ways, and the digits of an extent may belong to two extents. -/
theorem render_inj_groups :
    (Ty.tuple [.tuple [.token], .token]).render ≠ (Ty.tuple [.tuple [.token, .token]]).render ∧
    (Ty.tensor (.complex .f32) (.ranked [some 12])).render ≠
      (Ty.tensor (.complex .f32) (.ranked [some 1, some 2])).render := by
  constructor
  · rw [Ne, render_inj rfl rfl]
    simp
  · rw [Ne, render_inj rfl rfl]
    simp

end Ty

end TensorTyping

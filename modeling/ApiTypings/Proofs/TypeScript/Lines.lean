import ApiTypings.Proofs.TypeScript.Rendering

/-!
# Texts on one line

Quoted texts, numbers and values as JSON have no line feed in them, and neither have the
lines of a comment.
-/

namespace ApiTypings
namespace Text

/-- A text without a line feed. -/
def OnOneLine (text : List Char) : Prop :=
  '\n' ∉ text

instance (text : List Char) : Decidable (OnOneLine text) :=
  inferInstanceAs (Decidable ('\n' ∉ text))

theorem onOneLine_nil : OnOneLine [] :=
  List.not_mem_nil

theorem OnOneLine.append
    {first second : List Char}
    (left : OnOneLine first)
    (right : OnOneLine second) :
    OnOneLine (first ++ second) := by
  intro member
  rcases List.mem_append.mp member with inFirst | inSecond
  · exact left inFirst
  · exact right inSecond

theorem OnOneLine.of_subset
    {text part : List Char}
    (line : OnOneLine text)
    (inside : part ⊆ text) :
    OnOneLine part :=
  fun member => line (inside member)

theorem OnOneLine.flatMap
    {α : Type}
    {items : List α}
    {change : α → List Char}
    (each : ∀ item ∈ items, OnOneLine (change item)) :
    OnOneLine (items.flatMap change) := by
  intro member
  obtain ⟨item, listed, inside⟩ := List.mem_flatMap.mp member
  exact each item listed inside

theorem OnOneLine.intercalate
    {separator : List Char}
    (line : OnOneLine separator)
    {texts : List (List Char)}
    (each : ∀ text ∈ texts, OnOneLine text) :
    OnOneLine (separator.intercalate texts) := by
  induction texts with
  | nil => exact onOneLine_nil
  | cons first rest hypothesis =>
      obtain ⟨here, later⟩ := List.forall_mem_cons.mp each
      cases rest with
      | nil =>
          rw [List.intercalate_singleton]
          exact here
      | cons second rest =>
          rw [List.intercalate_cons_cons]
          exact (here.append line).append (hypothesis later)

/-! ## Quoted texts -/

theorem onOneLine_shortEscape {c mark : Char} (short : shortEscape? c = some mark) :
    OnOneLine ['\\', mark] := by
  unfold shortEscape? at short
  split at short <;> cases short <;> decide

theorem onOneLine_unicodeEscape (n : Nat) : OnOneLine (unicodeEscape n) := by
  have digit (n : Nat) : hexDigit (n % 16) ≠ '\n' := by
    intro feed
    have name := TypeScript.isNameChar_hexDigit n
    rw [feed] at name
    contradiction
  unfold OnOneLine unicodeEscape hexFour
  simp [Ne.symm (digit _)]

theorem ne_lineFeed_of_le {c : Char} (visible : 0x20 ≤ c.toNat) : c ≠ '\n' := by
  rintro rfl
  contradiction

theorem onOneLine_escape (c : Char) : OnOneLine (escape c) := by
  rcases escape_cases c with ⟨mark, short, same⟩ | ⟨_, same⟩ | ⟨visible, _, _, same⟩
  · rw [same]
    exact onOneLine_shortEscape short
  · rw [same]
    exact onOneLine_unicodeEscape _
  · rw [same, OnOneLine, List.mem_singleton]
    exact Ne.symm (ne_lineFeed_of_le (Nat.le_of_not_lt visible))

theorem onOneLine_escapeAscii (code : Nat) : OnOneLine (escapeAscii code) := by
  unfold escapeAscii
  split
  · rename_i short
    exact onOneLine_shortEscape short
  · split
    · rename_i visible
      have whole : isHalf code = false := by
        have below : ¬ 0xD800 ≤ code := by omega
        simp [isHalf, below]
      rw [OnOneLine, List.mem_singleton]
      refine Ne.symm (ne_lineFeed_of_le ?_)
      rw [toNat_ofNat_of_not_half (by omega) whole]
      exact visible.1
    · split
      · exact onOneLine_unicodeEscape _
      · exact (onOneLine_unicodeEscape _).append (onOneLine_unicodeEscape _)

theorem onOneLine_quotes {text : List Char} (line : OnOneLine text) :
    OnOneLine ('"' :: (text ++ ['"'])) := by
  have quote : OnOneLine ['"'] := by decide
  exact quote.append (line.append quote)

theorem onOneLine_quoted (text : String) : OnOneLine (quoted text).toList := by
  unfold quoted quote
  rw [String.toList_ofList]
  exact onOneLine_quotes (.flatMap fun c _ => onOneLine_escape c)

end Text

open Text

theorem Json.Charset.onOneLine_quote (charset : Json.Charset) (text : String) :
    OnOneLine (charset.quote text).toList := by
  cases charset with
  | unicode => exact onOneLine_quoted text
  | ascii =>
      unfold Json.Charset.quote quoteAscii
      rw [String.toList_ofList]
      exact onOneLine_quotes (.flatMap fun code _ => onOneLine_escapeAscii code)

namespace TypeScript

/-! ## Numbers -/

theorem IsNumeral.onOneLine {text : List Char} (numeral : IsNumeral text) : OnOneLine text := by
  intro member
  rcases numeral.mem_cases member with digit | mark <;> contradiction

theorem onOneLine_signed
    (negative : Bool)
    {text : String}
    (line : OnOneLine text.toList) :
    OnOneLine ((if negative then "-" else "") ++ text).toList := by
  rw [String.toList_append]
  refine OnOneLine.append ?_ line
  cases negative <;> decide

theorem onOneLine_toString (number : Int) : OnOneLine (toString number).toList := by
  rw [toString_int]
  apply onOneLine_signed
  rw [String.toList_ofList]
  exact (isNumeral_digits number.natAbs).onOneLine

theorem onOneLine_float (number : Float) :
    OnOneLine (Decimal.Layout.json.text number).toList := by
  unfold Decimal.Layout.text
  cases Decimal.Reading.ofFloat number with
  | notANumber => decide
  | infinite negative => exact onOneLine_signed negative (by decide)
  | finite negative magnitude =>
      apply onOneLine_signed
      rw [String.toList_ofList]
      exact (isNumeral_shortest Decimal.Layout.json magnitude).onOneLine

theorem onOneLine_literal (value : Literal) : OnOneLine value.render.toList := by
  cases value with
  | bool flag => cases flag <;> decide
  | int number => exact onOneLine_toString number
  | float number => exact onOneLine_float number
  | text content => exact onOneLine_quoted content

end TypeScript

namespace Json

/-! ## Values as JSON -/

theorem onOneLine_integerText
    {number : Int}
    {text : String}
    (written : integerText number = .ok text) :
    OnOneLine text.toList := by
  unfold integerText at written
  by_cases writable : Decimal.isWritable number = true
  · rw [if_pos writable] at written
    cases written
    exact TypeScript.onOneLine_toString number
  · rw [if_neg writable] at written
    cases written

theorem onOneLine_between
    {opening closing : String}
    (opens : OnOneLine opening.toList)
    (closes : OnOneLine closing.toList)
    {texts : List String}
    (each : ∀ text ∈ texts, OnOneLine text.toList) :
    OnOneLine (opening ++ ", ".intercalate texts ++ closing).toList := by
  rw [String.toList_append, String.toList_append, String.toList_intercalate]
  refine (opens.append (.intercalate (by decide) ?_)).append closes
  intro text listed
  obtain ⟨found, member, rfl⟩ := List.mem_map.mp listed
  exact each found member

theorem onOneLine_entry
    (charset : Charset)
    (key : String)
    {text : String}
    (line : OnOneLine text.toList) :
    OnOneLine (charset.quote key ++ ": " ++ text).toList := by
  rw [String.toList_append, String.toList_append]
  exact ((charset.onOneLine_quote key).append (by decide)).append line

mutual

/-- A value is written on one line. -/
theorem onOneLine_write
    (charset : Charset)
    (value : Value)
    {text : String}
    (written : write charset value = .ok text) :
    OnOneLine text.toList := by
  cases value with
  | null =>
      cases written
      decide
  | bool flag =>
      cases written
      cases flag <;> decide
  | int number => exact onOneLine_integerText written
  | float number =>
      cases written
      exact TypeScript.onOneLine_float number
  | text content =>
      cases written
      exact charset.onOneLine_quote content
  | moment moment =>
      cases written
      exact charset.onOneLine_quote moment.text
  | list items =>
      rw [write] at written
      obtain ⟨texts, several, written⟩ := exists_of_bind_eq_ok written
      cases written
      exact onOneLine_between (by decide) (by decide) (onOneLine_writeItems charset items several)
  | mapping entries =>
      rw [write] at written
      obtain ⟨texts, several, written⟩ := exists_of_bind_eq_ok written
      cases written
      exact onOneLine_between (by decide) (by decide)
        (onOneLine_writeEntries charset entries several)
  | keyed entries =>
      rw [write] at written
      obtain ⟨texts, several, written⟩ := exists_of_bind_eq_ok written
      cases written
      exact onOneLine_between (by decide) (by decide) (onOneLine_writeKeyed charset entries several)

theorem onOneLine_writeItems
    (charset : Charset)
    (items : List Value)
    {texts : List String}
    (written : writeItems charset items = .ok texts) :
    ∀ text ∈ texts, OnOneLine text.toList := by
  cases items with
  | nil =>
      cases written
      simp
  | cons item rest =>
      rw [writeItems] at written
      obtain ⟨first, single, written⟩ := exists_of_bind_eq_ok written
      obtain ⟨others, several, written⟩ := exists_of_bind_eq_ok written
      cases written
      exact List.forall_mem_cons.mpr
        ⟨onOneLine_write charset item single, onOneLine_writeItems charset rest several⟩

theorem onOneLine_writeEntries
    (charset : Charset)
    (entries : List (String × Value))
    {texts : List String}
    (written : writeEntries charset entries = .ok texts) :
    ∀ text ∈ texts, OnOneLine text.toList := by
  cases entries with
  | nil =>
      cases written
      simp
  | cons entry rest =>
      obtain ⟨key, value⟩ := entry
      rw [writeEntries] at written
      obtain ⟨first, single, written⟩ := exists_of_bind_eq_ok written
      obtain ⟨others, several, written⟩ := exists_of_bind_eq_ok written
      cases written
      exact List.forall_mem_cons.mpr ⟨onOneLine_entry charset key
        (onOneLine_write charset value single), onOneLine_writeEntries charset rest several⟩

theorem onOneLine_writeKeyed
    (charset : Charset)
    (entries : List (Key × Value))
    {texts : List String}
    (written : writeKeyed charset entries = .ok texts) :
    ∀ text ∈ texts, OnOneLine text.toList := by
  cases entries with
  | nil =>
      cases written
      simp
  | cons entry rest =>
      obtain ⟨key, value⟩ := entry
      rw [writeKeyed] at written
      obtain ⟨name, _, written⟩ := exists_of_bind_eq_ok written
      obtain ⟨first, single, written⟩ := exists_of_bind_eq_ok written
      obtain ⟨others, several, written⟩ := exists_of_bind_eq_ok written
      cases written
      exact List.forall_mem_cons.mpr ⟨onOneLine_entry charset name
        (onOneLine_write charset value single), onOneLine_writeKeyed charset rest several⟩

end

end Json

namespace TypeScript

/-! ## Comments -/

theorem mem_sealComment {text : List Char} {c : Char} (member : c ∈ sealComment text) :
    c ∈ text ∨ c = '\\' := by
  fun_induction sealComment text with
  | case1 rest hypothesis =>
      simp only [List.mem_cons] at member ⊢
      grind
  | case2 first rest _ hypothesis =>
      simp only [List.mem_cons] at member ⊢
      grind
  | case3 => contradiction

theorem onOneLine_sealComment {text : List Char} (line : OnOneLine text) :
    OnOneLine (sealComment text) := by
  intro member
  rcases mem_sealComment member with inside | backslash
  · exact line inside
  · contradiction

/-- The lines of a text have no line feed in them. -/
theorem onOneLine_of_mem_linesFrom
    {current text line : List Char}
    (read : OnOneLine current)
    (member : line ∈ Text.linesFrom current text) :
    OnOneLine line := by
  have reversed {read : List Char} (line : OnOneLine read) : OnOneLine read.reverse :=
    fun feed => line (List.mem_reverse.mp feed)
  fun_induction Text.linesFrom current text with
  | case1 current empty => contradiction
  | case2 current nonempty =>
      rw [List.mem_singleton.mp member]
      exact reversed read
  | case3 current rest hypothesis =>
      rcases List.mem_cons.mp member with rfl | later
      · exact reversed read
      · exact hypothesis onOneLine_nil later
  | case4 current c rest _ isBreak hypothesis =>
      rcases List.mem_cons.mp member with rfl | later
      · exact reversed read
      · exact hypothesis onOneLine_nil later
  | case5 current c rest _ noBreak hypothesis =>
      refine hypothesis ?_ member
      intro feed
      rcases List.mem_cons.mp feed with rfl | earlier
      · exact noBreak rfl
      · exact read earlier

theorem onOneLine_of_mem_content
    {remark : Remark}
    (tags : ∀ tag ∈ remark.tags, ∀ text, commentText tag = .ok text → OnOneLine text)
    {content : List (List Char)}
    (written : remark.content = .ok content) :
    ∀ line ∈ content, OnOneLine line := by
  obtain ⟨description, tagLines, sample, described, tagged, sampled, rfl⟩ :=
    Remark.content_eq_ok_iff.mp written
  intro line member
  simp only [List.mem_append] at member
  rcases member with (inDescription | inTags) | inSample
  · unfold Remark.descriptionLines at described
    split at described
    · obtain ⟨text, _, rfl⟩ := exists_of_map_eq_ok described
      exact onOneLine_of_mem_linesFrom onOneLine_nil inDescription
    · cases described
      contradiction
  · obtain ⟨tag, listed, textual⟩ :=
      exists_left_of_forall₂ (forall₂_of_mapM_eq_ok tagged) inTags
    exact tags tag listed line textual
  · obtain ⟨value, _, exampled⟩ := exists_left_of_forall₂ (forall₂_of_mapM_eq_ok sampled) inSample
    obtain ⟨text, json, rfl⟩ := exists_of_map_eq_ok exampled
    have label : OnOneLine "@example ".toList := by decide
    exact label.append (onOneLine_sealComment (Json.onOneLine_write .unicode value json))

theorem onOneLine_of_mem_frame
    {content : List (List Char)}
    (each : ∀ line ∈ content, OnOneLine line) :
    ∀ line ∈ Remark.frame content, OnOneLine line := by
  unfold Remark.frame
  split
  · simp
  · rename_i only
    have opening : OnOneLine "/** ".toList := by decide
    have closing : OnOneLine " */".toList := by decide
    intro line listed
    rw [List.mem_singleton.mp listed]
    exact (opening.append (each only List.mem_cons_self)).append closing
  · intro line listed
    simp only [List.cons_append, List.mem_cons, List.mem_append, List.mem_map, List.not_mem_nil,
      or_false] at listed
    rcases listed with rfl | ⟨inner, inContent, rfl⟩ | rfl
    · decide
    · have star : OnOneLine " * ".toList := by decide
      exact (star.append (each inner inContent)).of_subset (trimEnd_isPrefix _).subset
    · decide

/-- A comment whose tags are on one line has no line feeds in its lines. -/
theorem onOneLine_of_lines
    {remark : Remark}
    (tags : ∀ tag ∈ remark.tags, ∀ text, commentText tag = .ok text → OnOneLine text)
    {comment : List String}
    (written : remark.lines = .ok comment) :
    ∀ line ∈ comment, OnOneLine line.toList := by
  obtain ⟨content, framed, rfl⟩ := exists_of_map_eq_ok written
  intro line listed
  obtain ⟨text, inFrame, rfl⟩ := List.mem_map.mp listed
  rw [String.toList_ofList]
  exact onOneLine_of_mem_frame (onOneLine_of_mem_content tags framed) text inFrame

end TypeScript

end ApiTypings

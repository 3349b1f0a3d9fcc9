import ApiTypings.Proofs.TypeScript.Comment
import ApiTypings.Proofs.TypeScript.Splitting

/-!
# Where comments end

The lines of a comment, each indented as one likes, are one comment. Nothing inside it ends
it, so the scanner that enters it at its first character leaves it at its last.
-/

namespace ApiTypings
namespace TypeScript

/-! ## The scanner inside a comment -/

/-- Whether the scanner stands in a comment. -/
def Mode.isComment : Mode → Bool
  | .opening | .comment _ => true
  | _ => false

namespace Scan

variable {star : Bool} {c : Char}

/-- A character that does not end a comment is passed. -/
theorem advance_comment
    (goesOn : (star && c == '/') = false)
    (depth : Int)
    (next : Option Char) :
    advance ⟨.comment star, depth⟩ c next = ⟨.comment (c == '*'), depth⟩ := by
  rw [Bool.and_comm] at goesOn
  simp [advance, goesOn]

/-- A text within which the comment does not end is passed inside the comment. -/
theorem trace_comment
    {text : List Char}
    (unclosed : closes star text = false)
    (depth : Int)
    (rest : List Char) :
    ∃ inside : List Scan, inside.length = text.length ∧
      (∀ scan ∈ inside, scan.mode.isComment = true ∧ scan.depth = depth) ∧
      trace ⟨.comment star, depth⟩ (text ++ rest) =
        inside ++ trace ⟨.comment (starAfter star text), depth⟩ rest := by
  induction text generalizing star with
  | nil => exact ⟨[], rfl, by simp, rfl⟩
  | cons c text hypothesis =>
      simp only [closes, Bool.or_eq_false_iff] at unclosed
      obtain ⟨inside, lengths, each, later⟩ := hypothesis unclosed.2
      refine ⟨⟨.comment star, depth⟩ :: inside, congrArg (· + 1) lengths, ?_, ?_⟩
      · exact List.forall_mem_cons.mpr ⟨⟨rfl, rfl⟩, each⟩
      · rw [List.cons_append, trace, advance_comment unclosed.1, later]
        rfl

end Scan

/-- A text within which the comment does not end goes on with the piece that is being read. -/
theorem splitFrom_comment
    {star : Bool}
    {text : List Char}
    (unclosed : closes star text = false)
    (operator : Char)
    (depth : Int)
    (current rest : List Char) :
    splitFrom operator ⟨.comment star, depth⟩ current (text ++ rest) =
      splitFrom operator ⟨.comment (starAfter star text), depth⟩ (text.reverse ++ current)
        rest := by
  induction text generalizing star current with
  | nil => rfl
  | cons c text hypothesis =>
      simp only [closes, Bool.or_eq_false_iff] at unclosed
      have inside (next : Option Char) :
          Scan.isOperator ⟨.comment star, depth⟩ operator c next = false := by
        simp [Scan.isOperator]
      rw [List.cons_append, splitFrom, inside, if_neg Bool.false_ne_true,
        Scan.advance_comment unclosed.1, hypothesis unclosed.2, List.reverse_cons,
        List.append_assoc]
      rfl

/-! ## One comment -/

/-- A text is one comment: from its third character on, the only end of a comment is its own.
In code at any depth and in front of anything, the scanner enters the comment at its first
character and leaves it at its last, and the text is a part of one piece. -/
structure IsOneComment (comment : List Char) : Prop where
  opens : "/**".toList <+: comment
  ends : ∀ place,
    2 ≤ place ∧ "*/".toList <+: comment.drop place ↔ place + 2 = comment.length
  scanned : ∀ (depth : Int) (rest : List Char), ∃ inside : List Scan,
    inside.length + 1 = comment.length ∧
    (∀ scan ∈ inside, scan.mode.isComment = true ∧ scan.depth = depth) ∧
    Scan.trace ⟨.code, depth⟩ (comment ++ rest) =
      ⟨.code, depth⟩ :: (inside ++ Scan.trace ⟨.code, depth⟩ rest)
  kept : ∀ (operator : Char) (depth : Int) (current rest : List Char),
    splitFrom operator ⟨.code, depth⟩ current (comment ++ rest) =
      splitFrom operator ⟨.code, depth⟩ (comment.reverse ++ current) rest

namespace Unclosed

variable {text : List Char} (unclosed : Unclosed text)

include unclosed

/-- Behind a text in which no comment ends, the end that follows is the only one. -/
theorem ends_iff (place : Nat) :
    "*/".toList <+: (text ++ "*/".toList).drop place ↔ place = text.length := by
  constructor
  · intro found
    rcases Nat.lt_trichotomy place text.length with earlier | here | later
    · exfalso
      rw [List.drop_append_of_le_length earlier.le] at found
      have inside : text.drop place <:+: text := (List.drop_suffix place text).isInfix
      cases here : text.drop place with
      | nil =>
          rw [List.drop_eq_nil_iff] at here
          omega
      | cons first behind =>
          rw [here] at found inside
          cases behind with
          | nil => simp at found
          | cons second behind =>
              have ending : "*/".toList <+: first :: second :: behind := by
                simpa using found
              have closed : Unclosed "*/".toList := unclosed.of_part (ending.isInfix.trans inside)
              contradiction
    · exact here
    · have short := found.length_le
      simp only [List.length_drop, List.length_append, String.reduceToList, List.length_cons,
        List.length_nil] at short
      omega
  · rintro rfl
    rw [List.drop_left]

theorem scanned (depth : Int) (rest : List Char) :
    ∃ inside : List Scan, inside.length + 1 = ("/*".toList ++ (text ++ "*/".toList)).length ∧
      (∀ scan ∈ inside, scan.mode.isComment = true ∧ scan.depth = depth) ∧
      Scan.trace ⟨.code, depth⟩ ("/*".toList ++ (text ++ "*/".toList) ++ rest) =
        ⟨.code, depth⟩ :: (inside ++ Scan.trace ⟨.code, depth⟩ rest) := by
  obtain ⟨inside, lengths, each, passed⟩ :=
    Scan.trace_comment unclosed depth ("*/".toList ++ rest)
  let last : Mode := .comment (starAfter false text)
  refine ⟨⟨.opening, depth⟩ :: (inside ++ [⟨last, depth⟩, ⟨.comment true, depth⟩]), ?_, ?_, ?_⟩
  · simp [lengths]
  · intro scan listed
    simp only [List.mem_cons, List.mem_append, List.not_mem_nil, or_false] at listed
    rcases listed with rfl | earlier | rfl | rfl
    · exact ⟨rfl, rfl⟩
    · exact each scan earlier
    · exact ⟨rfl, rfl⟩
    · exact ⟨rfl, rfl⟩
  · have ending : Scan.trace ⟨last, depth⟩ ("*/".toList ++ rest) =
        ⟨last, depth⟩ :: ⟨.comment true, depth⟩ :: Scan.trace ⟨.code, depth⟩ rest := by
      simp [last, Scan.trace, Scan.advance]
    rw [ending] at passed
    simpa [Scan.trace, Scan.advance, Scan.opensComment] using passed

theorem kept (operator : Char) (depth : Int) (current rest : List Char) :
    splitFrom operator ⟨.code, depth⟩ current ("/*".toList ++ (text ++ "*/".toList) ++ rest) =
      splitFrom operator ⟨.code, depth⟩
        (("/*".toList ++ (text ++ "*/".toList)).reverse ++ current) rest := by
  have passed := splitFrom_comment unclosed operator depth ('*' :: '/' :: current)
    ("*/".toList ++ rest)
  have ending (read : List Char) :
      splitFrom operator ⟨.comment (starAfter false text), depth⟩ read ("*/".toList ++ rest) =
        splitFrom operator ⟨.code, depth⟩ ('/' :: '*' :: read) rest := by
    simp [splitFrom, Scan.isOperator, Scan.advance]
  rw [ending] at passed
  simpa [splitFrom, Scan.isOperator, Scan.advance, Scan.opensComment] using passed

end Unclosed

/-- A text in which no comment ends, between the marks of a comment, is one comment. -/
theorem isOneComment_of_unclosed {body : List Char} (unclosed : Unclosed ('*' :: body)) :
    IsOneComment ("/*".toList ++ ('*' :: body ++ "*/".toList)) where
  opens := ⟨body ++ "*/".toList, by simp⟩
  ends := by
    intro place
    have lengths : ("/*".toList ++ ('*' :: body ++ "*/".toList)).length =
        ('*' :: body).length + 4 := by
      simp
    rw [lengths]
    constructor
    · rintro ⟨third, found⟩
      obtain ⟨later, rfl⟩ := Nat.exists_eq_add_of_le third
      have here : later = ('*' :: body).length := by
        apply (unclosed.ends_iff later).mp
        rwa [← List.drop_drop] at found
      omega
    · intro last
      obtain rfl : place = 2 + ('*' :: body).length := by omega
      refine ⟨Nat.le_add_right 2 _, ?_⟩
      have here := (unclosed.ends_iff _).mpr rfl
      rw [← List.drop_drop]
      exact here
  scanned := unclosed.scanned
  kept := unclosed.kept

/-! ## Indented lines -/

/-- Lines under each other, each behind the number of blanks that is given with it. -/
def indented (lines : List (Nat × String)) : String :=
  "\n".intercalate (lines.map fun line => String.ofList (List.replicate line.1 ' ') ++ line.2)

theorem toList_indented (lines : List (Nat × String)) (last : Nat × String) :
    (indented (lines ++ [last])).toList =
      (lines.flatMap fun line => List.replicate line.1 ' ' ++ line.2.toList ++ ['\n']) ++
        (List.replicate last.1 ' ' ++ last.2.toList) := by
  have joined := intercalate_lines
    (lines.map fun line => String.ofList (List.replicate line.1 ' ') ++ line.2)
    (String.ofList (List.replicate last.1 ' ') ++ last.2)
  simp only [List.flatMap_map, String.toList_append, String.toList_ofList] at joined
  rw [indented, String.toList_intercalate, List.map_append, List.map_singleton]
  exact joined

/-- A single line in which no comment ends is framed by one comment. -/
theorem isOneComment_line
    {line : List Char}
    (unclosed : Unclosed line)
    (count : Nat) :
    ∃ comment, (indented [(count, String.ofList ("/** ".toList ++ line ++ " */".toList))]).toList =
      List.replicate count ' ' ++ comment ∧ IsOneComment comment := by
  have body : Unclosed ('*' :: ' ' :: (line ++ [' '])) := unclosed.concat rfl
  refine ⟨_, ?_, isOneComment_of_unclosed body⟩
  have joined := toList_indented [] (count, String.ofList ("/** ".toList ++ line ++ " */".toList))
  simpa using joined

/-- Lines in which no comment ends, each behind a star, are one comment between an opening and
a closing line. -/
theorem isOneComment_block
    {content : List (List Char)}
    (unclosed : ∀ line ∈ content, Unclosed line)
    {marked : List (Nat × String)}
    (stars : marked.map Prod.snd =
      content.map fun line => String.ofList (Text.trimEnd (" * ".toList ++ line)))
    (count countLast : Nat) :
    ∃ comment, (indented ((count, "/**") :: marked ++ [(countLast, " */")])).toList =
      List.replicate count ' ' ++ comment ∧ IsOneComment comment := by
  have middle : Unclosed (marked.flatMap fun line =>
      List.replicate line.1 ' ' ++ line.2.toList ++ ['\n']) := by
    refine Unclosed.flatMap rfl ?_
    intro line listed
    have text : line.2 ∈ marked.map Prod.snd := List.mem_map_of_mem listed
    rw [stars] at text
    obtain ⟨inner, inContent, same⟩ := List.mem_map.mp text
    rw [← same, String.toList_ofList]
    exact (unclosed inner inContent).marked line.1
  have blank : Unclosed [' '] := rfl
  have body : Unclosed ('*' :: '\n' ::
      ((marked.flatMap fun line => List.replicate line.1 ' ' ++ line.2.toList ++ ['\n']) ++
        (List.replicate countLast ' ' ++ [' ']))) := by
    refine Unclosed.append middle (blank.indent countLast) ?_
    cases countLast <;> simp [List.replicate_succ]
  refine ⟨_, ?_, isOneComment_of_unclosed body⟩
  have joined := toList_indented ((count, "/**") :: marked) (countLast, " */")
  simpa using joined

/-- Lines in which no comment ends are framed by one comment, if there are any. -/
theorem isOneComment_frame
    {content : List (List Char)}
    (unclosed : ∀ line ∈ content, Unclosed line)
    {lines : List (Nat × String)}
    (framed : lines.map Prod.snd = (Remark.frame content).map String.ofList) :
    lines = [] ∨ ∃ count comment,
      (indented lines).toList = List.replicate count ' ' ++ comment ∧ IsOneComment comment := by
  cases content with
  | nil => exact .inl (List.map_eq_nil_iff.mp framed)
  | cons first rest =>
      right
      cases rest with
      | nil =>
          obtain ⟨⟨count, line⟩, others, rfl, rfl, none⟩ := List.map_eq_cons_iff.mp framed
          obtain rfl := List.map_eq_nil_iff.mp none
          exact ⟨count, isOneComment_line (unclosed first List.mem_cons_self) count⟩
      | cons second rest =>
          have block : (Remark.frame (first :: second :: rest)).map String.ofList = "/**" ::
              ((first :: second :: rest).map (fun line =>
                String.ofList (Text.trimEnd (" * ".toList ++ line))) ++ [" */"]) := by
            simp [Remark.frame]
          rw [block] at framed
          obtain ⟨⟨count, _⟩, others, rfl, rfl, behind⟩ := List.map_eq_cons_iff.mp framed
          obtain ⟨marked, closing, rfl, stars, closed⟩ := List.map_eq_append_iff.mp behind
          obtain ⟨⟨countLast, _⟩, none, rfl, rfl, empty⟩ := List.map_eq_cons_iff.mp closed
          obtain rfl := List.map_eq_nil_iff.mp empty
          exact ⟨count, isOneComment_block unclosed stars count countLast⟩

/-! ## What a comment says -/

namespace Remark

/-- All values that a remark holds can be written. -/
structure IsWritable (remark : Remark) : Prop where
  description : remark.description.isTruthy = true →
    ∃ text, Json.write .ascii remark.description = .ok text
  tags : ∀ tag ∈ remark.tags, ∃ text, Json.write .ascii tag = .ok text
  sample : ∀ value ∈ remark.example?, ∃ text, Json.write .unicode value = .ok text

/-- There is nothing to be said: no description that is not blank, no tag and no example. -/
structure SaysNothing (remark : Remark) : Prop where
  description : remark.description.isTruthy = true →
    ∃ text, commentText remark.description = .ok text ∧ ∀ c ∈ text, Text.isBlank c = true
  tags : remark.tags = []
  sample : remark.example? = none

end Remark

theorem exists_commentText_iff (value : Value) :
    (∃ text, commentText value = .ok text) ↔ ∃ text, Json.write .ascii value = .ok text := by
  unfold commentText
  split
  · simp [Json.write]
  · exact exists_map_eq_ok_iff

theorem linesFrom_eq_nil_iff (current text : List Char) :
    Text.linesFrom current text = [] ↔ current = [] ∧ text = [] := by
  fun_induction Text.linesFrom current text <;> simp_all

/-- Only blank texts have no lines once they are trimmed. -/
theorem lines_trim_eq_nil_iff (text : List Char) :
    Text.lines (Text.trim text) = [] ↔ ∀ c ∈ text, Text.isBlank c = true := by
  rw [Text.lines, linesFrom_eq_nil_iff]
  constructor
  · rintro ⟨-, empty⟩ c member
    by_contra visible
    have kept := TypeExpr.mem_trim member (Bool.eq_false_of_not_eq_true visible)
    rw [empty] at kept
    contradiction
  · intro blank
    refine ⟨rfl, ?_⟩
    rw [Text.trim, List.dropWhile_eq_nil_iff.mpr blank]
    rfl

namespace Remark

theorem descriptionLines_eq_ok_iff {value : Value} {lines : List (List Char)} :
    descriptionLines value = .ok lines ↔
      (value.isTruthy = true → ∃ text, commentText value = .ok text ∧
        Text.lines (Text.trim text) = lines) ∧ (value.isTruthy = false → lines = []) := by
  unfold descriptionLines
  cases value.isTruthy with
  | false => simp [eq_comm]
  | true => cases commentText value <;> simp [Except.map]

/-- A remark is written unless one of its values cannot be. -/
theorem exists_content_iff (remark : Remark) :
    (∃ content, remark.content = .ok content) ↔ remark.IsWritable := by
  constructor
  · rintro ⟨content, written⟩
    obtain ⟨description, tags, sample, described, tagged, sampled, -⟩ :=
      content_eq_ok_iff.mp written
    refine ⟨?_, ?_, ?_⟩
    · intro given
      obtain ⟨text, textual, -⟩ := (descriptionLines_eq_ok_iff.mp described).1 given
      exact (exists_commentText_iff _).mp ⟨text, textual⟩
    · intro tag listed
      obtain ⟨text, -, textual⟩ := exists_right_of_forall₂ (forall₂_of_mapM_eq_ok tagged) listed
      exact (exists_commentText_iff _).mp ⟨text, textual⟩
    · intro value given
      obtain ⟨line, -, exampled⟩ := exists_right_of_forall₂ (forall₂_of_mapM_eq_ok sampled)
        (Option.mem_toList.mpr given)
      exact exists_map_eq_ok_iff.mp ⟨line, exampled⟩
  · rintro ⟨description, tags, sample⟩
    obtain ⟨lines, described⟩ :
        ∃ lines, descriptionLines remark.description = .ok lines := by
      cases given : remark.description.isTruthy with
      | false =>
          refine ⟨[], descriptionLines_eq_ok_iff.mpr ⟨?_, fun _ => rfl⟩⟩
          simp [given]
      | true =>
          obtain ⟨text, textual⟩ := (exists_commentText_iff _).mpr (description given)
          refine ⟨_, descriptionLines_eq_ok_iff.mpr ⟨fun _ => ⟨text, textual, rfl⟩, ?_⟩⟩
          simp [given]
    obtain ⟨texts, tagged⟩ : ∃ texts, remark.tags.mapM commentText = .ok texts :=
      exists_mapM_eq_ok fun tag listed => (exists_commentText_iff tag).mpr (tags tag listed)
    obtain ⟨examples, sampled⟩ :
        ∃ examples, remark.example?.toList.mapM exampleLine = .ok examples :=
      exists_mapM_eq_ok fun value given =>
        exists_map_eq_ok_iff.mpr (sample value (Option.mem_toList.mp given))
    exact ⟨_, content_eq_ok_iff.mpr ⟨lines, texts, examples, described, tagged, sampled, rfl⟩⟩

/-- There is no content exactly if there is nothing to be said. -/
theorem content_eq_nil_iff
    {remark : Remark}
    {content : List (List Char)}
    (written : remark.content = .ok content) :
    content = [] ↔ remark.SaysNothing := by
  obtain ⟨description, tags, sample, described, tagged, sampled, rfl⟩ :=
    content_eq_ok_iff.mp written
  obtain ⟨present, absent⟩ := descriptionLines_eq_ok_iff.mp described
  have sameTags := (forall₂_of_mapM_eq_ok tagged).length_eq
  have sameSample := (forall₂_of_mapM_eq_ok sampled).length_eq
  rw [List.append_eq_nil_iff, List.append_eq_nil_iff]
  constructor
  · rintro ⟨⟨rfl, rfl⟩, rfl⟩
    refine ⟨?_, List.length_eq_zero_iff.mp sameTags, ?_⟩
    · intro given
      obtain ⟨text, textual, empty⟩ := present given
      exact ⟨text, textual, (lines_trim_eq_nil_iff text).mp empty⟩
    · exact Option.toList_eq_nil_iff.mp (List.length_eq_zero_iff.mp sameSample)
  · rintro ⟨blank, none, unasked⟩
    rw [none] at sameTags
    rw [unasked] at sameSample
    refine ⟨⟨?_, List.length_eq_zero_iff.mp sameTags.symm⟩,
      List.length_eq_zero_iff.mp sameSample.symm⟩
    cases given : remark.description.isTruthy with
    | false => exact absent given
    | true =>
        obtain ⟨text, textual, blanks⟩ := blank given
        obtain ⟨_, same, rfl⟩ := present given
        rw [textual] at same
        rw [← Except.ok.inj same]
        exact (lines_trim_eq_nil_iff text).mpr blanks

theorem frame_eq_nil_iff (content : List (List Char)) : frame content = [] ↔ content = [] := by
  unfold frame
  split <;> simp_all

/-- The lines of a comment are there unless a value cannot be written, and there are none
exactly if there is nothing to be said. Under each other, whatever number of blanks is in front
of each, they are one comment behind the blanks of the first. -/
theorem one_comment_or_nothing (remark : Remark) :
    ((∃ lines, remark.lines = .ok lines) ↔ remark.IsWritable) ∧
    ∀ lines : List (Nat × String), remark.lines = .ok (lines.map Prod.snd) →
      (lines = [] ↔ remark.SaysNothing) ∧
      (lines = [] ∨ ∃ count comment,
        (indented lines).toList = List.replicate count ' ' ++ comment ∧ IsOneComment comment) := by
  constructor
  · rw [← exists_content_iff]
    exact exists_map_eq_ok_iff
  · intro lines written
    obtain ⟨content, inside, framed⟩ := exists_of_map_eq_ok written
    refine ⟨?_, isOneComment_frame (unclosed_of_mem_content inside) framed.symm⟩
    rw [← content_eq_nil_iff inside, ← frame_eq_nil_iff, ← List.map_eq_nil_iff (f := String.ofList),
      framed, List.map_eq_nil_iff]

/-- Ends of comments in a description, a tag and an example, a star at the end of a line and a
slash at the start of the next, under different numbers of blanks. -/
theorem one_comment_or_nothing_of_ends :
    lines ⟨.text "a*\n/b*/", [.text "*/"], some (.list [.text "**/"])⟩ =
      .ok ["/**", " * a*", " * /b*\\/", " * *\\/", " * @example [\"**\\/\"]", " */"] ∧
    ∃ count comment,
      (indented [(2, "/**"), (0, " * a*"), (2, " * /b*\\/"), (1, " * *\\/"),
        (2, " * @example [\"**\\/\"]"), (0, " */")]).toList = List.replicate count ' ' ++ comment ∧
      IsOneComment comment := by
  have written : lines ⟨.text "a*\n/b*/", [.text "*/"], some (.list [.text "**/"])⟩ =
      .ok ["/**", " * a*", " * /b*\\/", " * *\\/", " * @example [\"**\\/\"]", " */"] := by
    cbv
  refine ⟨written, ?_⟩
  have one := ((one_comment_or_nothing _).2 [(2, "/**"), (0, " * a*"), (2, " * /b*\\/"),
    (1, " * *\\/"), (2, " * @example [\"**\\/\"]"), (0, " */")] written).2
  exact one.resolve_left (List.cons_ne_nil _ _)

end Remark

end TypeScript
end ApiTypings

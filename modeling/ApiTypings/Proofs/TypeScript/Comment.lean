import ApiTypings.Proofs.Outcome
import ApiTypings.Proofs.TypeScript.Token
import ApiTypings.TypeScript.Comment

/-!
# Comments are no tokens

No text inside a comment closes it, so the lines of a comment, each on a line of
its own and indented as one likes, are left out when a text is read.
-/

namespace ApiTypings
namespace TypeScript

/-- Whether a comment ends within a text; `star` tells whether a slash in front
would end it. -/
def closes (star : Bool) : List Char → Bool
  | [] => false
  | c :: rest => (star && c == '/') || closes (c == '*') rest

/-- Whether a slash behind a text would end the comment. -/
def starAfter (star : Bool) : List Char → Bool
  | [] => star
  | c :: rest => starAfter (c == '*') rest

theorem closes_append (star : Bool) (first second : List Char) :
    closes star (first ++ second) =
      (closes star first || closes (starAfter star first) second) := by
  induction first generalizing star with
  | nil => simp [closes, starAfter]
  | cons c first hypothesis => simp [closes, starAfter, hypothesis, Bool.or_assoc]

@[simp] theorem starAfter_concat (star : Bool) (text : List Char) (c : Char) :
    starAfter star (text ++ [c]) = (c == '*') := by
  induction text generalizing star with
  | nil => rfl
  | cons d text hypothesis => exact hypothesis _

/-- A slash in front that ends no comment cannot make one end later. -/
theorem closes_of_not_star {star : Bool} {text : List Char} (closed : closes false text = true) :
    closes star text = true := by
  cases text with
  | nil => contradiction
  | cons c text =>
      simp only [closes, Bool.false_and, Bool.false_or] at closed
      simp [closes, closed]

theorem closes_of_head? {text : List Char} (noSlash : text.head? ≠ some '/') (star : Bool) :
    closes star text = closes false text := by
  cases text with
  | nil => rfl
  | cons c text =>
      have other : (c == '/') = false := by simpa using noSlash
      simp [closes, other]

/-- A comment does not end within a text. -/
def Unclosed (text : List Char) : Prop :=
  closes false text = false

namespace Unclosed

variable {text part first second : List Char}

theorem of_part (unclosed : Unclosed text) (inside : part <:+: text) : Unclosed part := by
  obtain ⟨before, after, rfl⟩ := inside
  simp only [Unclosed, closes_append, Bool.or_eq_false_iff] at unclosed
  obtain ⟨⟨_, here⟩, _⟩ := unclosed
  rw [Unclosed, ← Bool.not_eq_true]
  intro closed
  rw [closes_of_not_star closed] at here
  contradiction

/-- A text goes on after a character that is no star. -/
theorem concat_append
    {c : Char}
    (left : Unclosed (first ++ [c]))
    (noStar : (c == '*') = false)
    (right : Unclosed second) :
    Unclosed (first ++ [c] ++ second) := by
  rw [Unclosed, closes_append, left, starAfter_concat, noStar, right]
  rfl

/-- A character that is no slash closes nothing. -/
theorem concat {c : Char} (unclosed : Unclosed first) (noSlash : (c == '/') = false) :
    Unclosed (first ++ [c]) := by
  rw [Unclosed, closes_append, unclosed]
  simp [closes, noSlash]

/-- A text that does not start with a slash closes nothing in front of it. -/
theorem append
    (left : Unclosed first)
    (right : Unclosed second)
    (noSlash : second.head? ≠ some '/') :
    Unclosed (first ++ second) := by
  rw [Unclosed, closes_append, left, closes_of_head? noSlash, right]
  rfl

theorem indent (unclosed : Unclosed text) (count : Nat) :
    Unclosed (List.replicate count ' ' ++ text) := by
  induction count with
  | zero => exact unclosed
  | succ count hypothesis => exact hypothesis

/-- Several texts in a row that end in a character which is no star. -/
theorem flatMap
    {α : Type}
    {items : List α}
    {line : α → List Char}
    {c : Char}
    (noStar : (c == '*') = false)
    (each : ∀ item ∈ items, Unclosed (line item ++ [c])) :
    Unclosed (items.flatMap fun item => line item ++ [c]) := by
  induction items with
  | nil => rfl
  | cons item rest hypothesis =>
      rw [List.flatMap_cons]
      refine (each item List.mem_cons_self).concat_append noStar (hypothesis ?_)
      intro other member
      exact each other (List.mem_cons_of_mem item member)

end Unclosed

theorem head?_sealComment (text : List Char) : (sealComment text).head? = text.head? := by
  fun_cases sealComment text <;> rfl

/-- No comment ends within a sealed text. -/
theorem unclosed_sealComment (text : List Char) : Unclosed (sealComment text) := by
  unfold Unclosed
  fun_induction sealComment text with
  | case1 rest hypothesis => simp [closes, hypothesis]
  | case2 c rest noEnd hypothesis =>
      rw [closes, Bool.false_and, Bool.false_or]
      by_cases isStar : c = '*'
      · have noSlash : (sealComment rest).head? ≠ some '/' := by
          rw [head?_sealComment]
          intro slash
          obtain ⟨more, rfl⟩ := List.head?_eq_some_iff.mp slash
          exact noEnd more isStar rfl
        rw [closes_of_head? noSlash, hypothesis]
      · rw [beq_false_of_ne isStar, hypothesis]
  | case3 => rfl

/-! ## Lines and blanks -/

theorem trimEnd_isPrefix (text : List Char) : Text.trimEnd text <+: text := by
  unfold Text.trimEnd
  have suffix := List.dropWhile_suffix (l := text.reverse) Text.isBlank
  rwa [← List.reverse_prefix, List.reverse_reverse] at suffix

theorem trim_isInfix (text : List Char) : Text.trim text <:+: text :=
  (trimEnd_isPrefix _).isInfix.trans (List.dropWhile_suffix Text.isBlank).isInfix

theorem infix_of_mem_linesFrom
    {current text line : List Char}
    (member : line ∈ Text.linesFrom current text) :
    line <:+: current.reverse ++ text := by
  fun_induction Text.linesFrom current text with
  | case1 current empty => simp at member
  | case2 current nonempty =>
      rw [List.mem_singleton.mp member]
      exact (List.prefix_append _ _).isInfix
  | case3 current rest hypothesis =>
      rcases List.mem_cons.mp member with rfl | later
      · exact (List.prefix_append _ _).isInfix
      · exact (hypothesis later).trans ⟨current.reverse ++ ['\r', '\n'], [], by simp⟩
  | case4 current c rest _ isBreak hypothesis =>
      rcases List.mem_cons.mp member with rfl | later
      · exact (List.prefix_append _ _).isInfix
      · exact (hypothesis later).trans ⟨current.reverse ++ [c], [], by simp⟩
  | case5 current c rest _ noBreak hypothesis =>
      have inside := hypothesis member
      rw [List.reverse_cons, List.append_assoc] at inside
      exact inside

/-! ## Reading a comment -/

namespace Lexing

/-- A text within which the comment does not end is left out. -/
theorem lex_comment
    {star : Bool}
    {text : List Char}
    (unclosed : closes star text = false)
    (rest : List Char) :
    lex (.comment star) (text ++ rest) = lex (.comment (starAfter star text)) rest := by
  induction text generalizing star with
  | nil => rfl
  | cons c text hypothesis =>
      simp only [closes, Bool.or_eq_false_iff] at unclosed
      simp only [List.cons_append, lex_cons, advance, unclosed.1, Bool.false_eq_true, if_false,
        List.nil_append, starAfter]
      exact hypothesis unclosed.2

end Lexing

/-- A comment is left out. -/
theorem stands_comment {body : List Char} (unclosed : Unclosed body) :
    Stands ('/' :: '*' :: (body ++ ['*', '/'])) [] := by
  intro rest
  change Lexing.lex (.comment false) (body ++ ['*', '/'] ++ rest) = tokens rest
  rw [List.append_assoc, Lexing.lex_comment unclosed]
  simp [Lexing.advance, tokens]

theorem stands_blank {c : Char} (blank : Text.isWhiteSpace c = true) : Stands [c] [] := by
  intro rest
  simp [tokens, Lexing.advance, Lexing.enter, blank]

theorem stands_blanks (count : Nat) : Stands (List.replicate count ' ') [] := by
  induction count with
  | zero => exact stands_nil
  | succ count hypothesis =>
      have first : Stands [' '] [] := stands_blank rfl
      exact first.append hypothesis

/-! ## The lines of a comment -/

/-- The lines of a comment are left out, indented by any number of blanks. -/
def Silent (comment : List String) : Prop :=
  ∀ count, Stands
    (comment.flatMap fun line => List.replicate count ' ' ++ line.toList ++ ['\n']) []

theorem silent_nil : Silent [] :=
  fun _ => stands_nil

/-- A line of a comment is marked by a star, and goes on after it. -/
theorem Unclosed.marked {line : List Char} (unclosed : Unclosed line) (count : Nat) :
    Unclosed (List.replicate count ' ' ++ Text.trimEnd (" * ".toList ++ line) ++ ['\n']) := by
  have starred : Unclosed (" * ".toList ++ line) := by exact unclosed
  have whole := starred.indent count
  refine Unclosed.concat (whole.of_part ?_) rfl
  obtain ⟨rest, same⟩ := trimEnd_isPrefix (" * ".toList ++ line)
  exact ⟨[], rest, by rw [List.nil_append, List.append_assoc, same]⟩

/-- Lines within which no comment ends are framed by one comment. -/
theorem silent_frame
    {content : List (List Char)}
    (unclosed : ∀ line ∈ content, Unclosed line) :
    Silent ((Remark.frame content).map String.ofList) := by
  intro count
  have newline : Stands ['\n'] [] := stands_blank rfl
  match content with
  | [] => exact stands_nil
  | [line] =>
      have body : Unclosed ('*' :: ' ' :: (line ++ [' '])) :=
        (unclosed line List.mem_cons_self).concat rfl
      have comment := ((stands_blanks count).append (stands_comment body)).append newline
      simpa [Remark.frame] using comment
  | first :: second :: rest =>
      have middle := Unclosed.flatMap rfl fun line member =>
        (unclosed line member).marked count
      have blank : Unclosed [' '] := rfl
      have body : Unclosed ('*' :: '\n' ::
          ((first :: second :: rest).flatMap (fun line =>
            List.replicate count ' ' ++ Text.trimEnd (" * ".toList ++ line) ++ ['\n']) ++
          (List.replicate count ' ' ++ [' ']))) := by
        refine Unclosed.append middle (blank.indent count) ?_
        cases count <;> simp [List.replicate_succ]
      have comment := ((stands_blanks count).append (stands_comment body)).append newline
      simpa [Remark.frame, List.flatMap_map] using comment

theorem unclosed_commentText
    {value : Value}
    {text : List Char}
    (written : commentText value = .ok text) :
    Unclosed text := by
  unfold commentText at written
  split at written
  · rw [← Except.ok.inj written]
    exact unclosed_sealComment _
  · obtain ⟨inner, _, rfl⟩ := exists_of_map_eq_ok written
    exact unclosed_sealComment _

/-- The content of a comment is written if its three parts are. -/
theorem Remark.content_eq_ok_iff {remark : Remark} {content : List (List Char)} :
    remark.content = .ok content ↔ ∃ description tags sample,
      descriptionLines remark.description = .ok description ∧
      remark.tags.mapM commentText = .ok tags ∧
      remark.example?.toList.mapM exampleLine = .ok sample ∧
      description ++ tags ++ sample = content := by
  constructor
  · intro written
    obtain ⟨description, described, written⟩ := exists_of_bind_eq_ok written
    obtain ⟨tags, tagged, written⟩ := exists_of_bind_eq_ok written
    obtain ⟨sample, sampled, written⟩ := exists_of_bind_eq_ok written
    exact ⟨description, tags, sample, described, tagged, sampled, Except.ok.inj written⟩
  · rintro ⟨description, tags, sample, described, tagged, sampled, rfl⟩
    rw [content, described, tagged, sampled]
    rfl

/-- No line of a comment ends the comment. -/
theorem unclosed_of_mem_content
    {remark : Remark}
    {content : List (List Char)}
    (written : remark.content = .ok content) :
    ∀ line ∈ content, Unclosed line := by
  obtain ⟨description, tags, sample, described, tagged, sampled, rfl⟩ :=
    Remark.content_eq_ok_iff.mp written
  intro line member
  simp only [List.mem_append] at member
  rcases member with (inDescription | inTags) | inSample
  · unfold Remark.descriptionLines at described
    split at described
    · obtain ⟨text, textual, rfl⟩ := exists_of_map_eq_ok described
      have inside := (infix_of_mem_linesFrom inDescription).trans (trim_isInfix text)
      exact (unclosed_commentText textual).of_part inside
    · cases described
      simp at inDescription
  · obtain ⟨tag, _, textual⟩ := exists_left_of_forall₂ (forall₂_of_mapM_eq_ok tagged) inTags
    exact unclosed_commentText textual
  · obtain ⟨value, _, exampled⟩ := exists_left_of_forall₂ (forall₂_of_mapM_eq_ok sampled) inSample
    obtain ⟨text, _, rfl⟩ := exists_of_map_eq_ok exampled
    have sealed := unclosed_sealComment text.toList
    exact sealed

/-- The lines of a comment are left out. -/
theorem silent_of_lines
    {remark : Remark}
    {comment : List String}
    (written : remark.lines = .ok comment) :
    Silent comment := by
  obtain ⟨content, framed, rfl⟩ := exists_of_map_eq_ok written
  exact silent_frame (unclosed_of_mem_content framed)

end TypeScript
end ApiTypings

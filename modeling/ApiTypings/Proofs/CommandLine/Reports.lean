import ApiTypings.CommandLine.Run
import ApiTypings.Proofs.Text.Halves
import Mathlib.Data.List.Basic

/-!
# Reports of failures

A text that is escaped has no tags of its own, so the report of a failure can always be
shown, whatever the message says. So a failure ends a run in one of two ways: it is told, or
it breaks the run off.
-/

namespace ApiTypings
namespace CommandLine

/-- Characters that end the text of a tag. -/
def isBracket (c : Char) : Bool :=
  c == '[' || c == ']'

/-- Texts without brackets. -/
def BracketFree (text : List Char) : Prop :=
  ∀ c ∈ text, isBracket c = false

theorem bracketFree_replicate (count : Nat) : BracketFree (List.replicate count '\\') := by
  intro c listed
  rw [List.eq_of_mem_replicate listed]
  rfl

/-- A text has one first bracket. -/
theorem eq_of_first_bracket
    {before after other rest : List Char}
    {bracket sign : Char}
    (free : BracketFree before)
    (freeOther : BracketFree other)
    (isFirst : isBracket bracket = true)
    (isSign : isBracket sign = true)
    (same : before ++ bracket :: after = other ++ sign :: rest) :
    before = other ∧ bracket = sign ∧ after = rest := by
  induction before generalizing other with
  | nil =>
      cases other with
      | nil => simpa using same
      | cons c others =>
          rw [List.nil_append, List.cons_append, List.cons.injEq] at same
          have noBracket := freeOther c List.mem_cons_self
          rw [← same.1, isFirst] at noBracket
          contradiction
  | cons c rest hypothesis =>
      cases other with
      | nil =>
          rw [List.nil_append, List.cons_append, List.cons.injEq] at same
          have noBracket := free c List.mem_cons_self
          rw [same.1, isSign] at noBracket
          contradiction
      | cons d others =>
          rw [List.cons_append, List.cons_append, List.cons.injEq] at same
          have freeRest : BracketFree rest := fun e listed => free e (List.mem_cons_of_mem c listed)
          have freeOthers : BracketFree others :=
            fun e listed => freeOther e (List.mem_cons_of_mem d listed)
          obtain ⟨rfl, rfl, rfl⟩ := hypothesis freeRest freeOthers same.2
          exact ⟨by rw [same.1], rfl, rfl⟩

/-- A tag is a text up to the first bracket, if that is a closing one. -/
theorem tag?_eq_some_iff {text content rest : List Char} :
    tag? text = some (content, rest) ↔
      text = content ++ ']' :: rest ∧ BracketFree content ∧
        content.head?.any startsTag = true := by
  have same : (fun c => c != '[' && c != ']') = fun c => !isBracket c := by
    funext c
    simp [isBracket, bne]
  unfold tag?
  rw [same]
  constructor
  · intro found
    have whole := List.takeWhile_append_dropWhile (p := fun c => !isBracket c) (l := text)
    have free : BracketFree (text.takeWhile fun c => !isBracket c) := by
      intro c listed
      simpa using List.all_eq_true.mp List.all_takeWhile c listed
    generalize text.takeWhile (fun c => !isBracket c) = start at found whole free
    generalize text.dropWhile (fun c => !isBracket c) = left at whole
    dsimp only at found
    rw [← whole, List.drop_left] at found
    split at found
    · split at found
      · cases found
        exact ⟨whole.symm, free, by assumption⟩
      · cases found
    · cases found
  · rintro ⟨rfl, free, starts⟩
    have start : (content ++ ']' :: rest).takeWhile (fun c => !isBracket c) = content := by
      rw [List.takeWhile_append_of_pos fun c listed => by simp [free c listed]]
      exact List.append_nil content
    dsimp only
    rw [start, List.drop_left]
    exact if_pos starts

/-! ## Escaped texts have no tags -/

/-- Texts of backslashes. -/
def Slashes (text : List Char) : Prop :=
  ∀ c ∈ text, c = '\\'

/-- A text without brackets at the start of another one stands before its first bracket. -/
theorem exists_of_free_start
    {before after content rest : List Char}
    (free : BracketFree before)
    (same : before ++ after = content ++ ']' :: rest) :
    ∃ further, content = before ++ further ∧ after = further ++ ']' :: rest := by
  rcases List.append_eq_append_iff.mp same with ⟨further, left, right⟩ | ⟨further, left, right⟩
  · exact ⟨further, left, right⟩
  · cases further with
    | nil => exact ⟨[], by simpa using left.symm, by simpa using right.symm⟩
    | cons c others =>
        have closing : ']' ∈ before := by
          rw [List.cons_append, List.cons.injEq] at right
          rw [left, ← right.1]
          exact List.mem_append_right content List.mem_cons_self
        have noBracket := free _ closing
        contradiction

/-- What stands before the first closing bracket of an escaped text stands there before it
is escaped. -/
theorem exists_of_escapedFrom_eq
    {slashes : Nat}
    {text tail content rest : List Char}
    (ends : Slashes tail)
    (free : BracketFree content)
    (same : escapedFrom slashes text ++ tail = content ++ ']' :: rest) :
    ∃ others, List.replicate slashes '\\' ++ text = content ++ ']' :: others := by
  fun_induction escapedFrom slashes text generalizing content with
  | case1 slashes =>
      have closing : ']' ∈ List.replicate slashes '\\' ++ tail := by
        rw [same]
        exact List.mem_append_right content List.mem_cons_self
      rcases List.mem_append.mp closing with slash | slash
      · cases List.eq_of_mem_replicate slash
      · cases ends _ slash
  | case2 slashes rest hypothesis =>
      obtain ⟨others, whole⟩ := hypothesis free same
      refine ⟨others, ?_⟩
      rw [← whole, List.replicate_succ', List.append_assoc]
      rfl
  | case3 slashes inner found after isTag shorter hypothesis =>
      rw [List.append_assoc, List.append_assoc, List.cons_append] at same
      obtain ⟨_, impossible, _⟩ :=
        eq_of_first_bracket (bracketFree_replicate _) free rfl rfl same
      contradiction
  | case4 slashes inner found hypothesis =>
      rw [List.append_assoc, List.cons_append] at same
      obtain ⟨_, impossible, _⟩ :=
        eq_of_first_bracket (bracketFree_replicate _) free rfl rfl same
      contradiction
  | case5 slashes c rest notSlash notBracket hypothesis =>
      rw [List.append_assoc, List.cons_append] at same
      by_cases closing : c = ']'
      · subst closing
        obtain ⟨rfl, _, _⟩ := eq_of_first_bracket (bracketFree_replicate _) free rfl rfl same
        exact ⟨rest, rfl⟩
      · have plain : BracketFree (List.replicate slashes '\\' ++ [c]) := by
          intro d listed
          rcases List.mem_append.mp listed with slash | single
          · exact bracketFree_replicate _ d slash
          · have opening : c ≠ '[' := notBracket
            rw [List.mem_singleton.mp single]
            simp [isBracket, opening, closing]
        rw [List.append_cons] at same
        obtain ⟨others, rfl, sameThere⟩ := exists_of_free_start plain same
        have freeOthers : BracketFree others := fun d listed =>
          free d (List.mem_append_right _ listed)
        obtain ⟨left, whole⟩ := hypothesis freeOthers sameThere
        refine ⟨left, ?_⟩
        rw [List.append_cons, List.append_assoc _ others, ← whole]
        rfl

/-- An opening bracket that starts no tag starts none after the text is escaped. -/
theorem tag?_escapedFrom
    {text tail : List Char}
    (ends : Slashes tail)
    (noTag : tag? text = none) :
    tag? (escapedFrom 0 text ++ tail) = none := by
  cases found : tag? (escapedFrom 0 text ++ tail) with
  | none => rfl
  | some pair =>
      obtain ⟨content, rest⟩ := pair
      obtain ⟨same, free, starts⟩ := tag?_eq_some_iff.mp found
      obtain ⟨others, whole⟩ := exists_of_escapedFrom_eq ends free same
      have isTag : tag? text = some (content, others) := tag?_eq_some_iff.mpr ⟨whole, free, starts⟩
      rw [isTag] at noTag
      contradiction

/-! ## Pieces of escaped texts -/

/-- All pieces are plain. -/
def AllPlain (pieces : List Piece) : Prop :=
  ∀ piece ∈ pieces, ∃ text, piece = .plain text

theorem AllPlain.append
    {first second : List Piece}
    (plain : AllPlain first)
    (plainThere : AllPlain second) :
    AllPlain (first ++ second) := by
  intro piece listed
  rcases List.mem_append.mp listed with before | after
  · exact plain piece before
  · exact plainThere piece after

theorem allPlain_plainPiece (text : List Char) : AllPlain (plainPiece text) := by
  unfold plainPiece
  split
  · intro piece listed
    contradiction
  · intro piece listed
    exact ⟨text, List.mem_singleton.mp listed⟩

theorem piecesFrom_cons
    {c : Char}
    (noBracket : c ≠ '[')
    (position : Nat)
    (pending rest : List Char) :
    piecesFrom position pending (c :: rest) = piecesFrom (position + 1) (c :: pending) rest := by
  rw [piecesFrom]
  exact noBracket

theorem piecesFrom_bracket
    {inner : List Char}
    (noTag : tag? inner = none)
    (position : Nat)
    (pending : List Char) :
    piecesFrom position pending ('[' :: inner) =
      piecesFrom (position + 1) ('[' :: pending) inner := by
  rw [piecesFrom]
  split
  · rename_i found
    rw [noTag] at found
    contradiction
  · rfl

theorem piecesFrom_tag
    {inner content after : List Char}
    (isTag : tag? inner = some (content, after))
    (position : Nat)
    (pending : List Char) :
    piecesFrom position pending ('[' :: inner) =
      let slashes := (pending.takeWhile (· == '\\')).length
      plainPiece (pending.drop slashes).reverse ++
        plainPiece (List.replicate (slashes / 2) '\\') ++
        (if slashes % 2 = 1 then .plain ('[' :: content ++ [']']) else .tag position content) ::
          piecesFrom (position + content.length + 2) [] after := by
  rw [piecesFrom]
  split
  · rename_i found
    rw [isTag] at found
    cases found
    rfl
  · rename_i found
    rw [isTag] at found
    contradiction

theorem piecesFrom_replicate (position count : Nat) (pending rest : List Char) :
    piecesFrom position pending (List.replicate count '\\' ++ rest) =
      piecesFrom (position + count) (List.replicate count '\\' ++ pending) rest := by
  induction count generalizing position pending with
  | zero => rfl
  | succ count hypothesis =>
      have moved : List.replicate count '\\' ++ '\\' :: pending =
          List.replicate (count + 1) '\\' ++ pending := by
        rw [List.replicate_succ', List.append_assoc]
        rfl
      calc piecesFrom position pending (List.replicate (count + 1) '\\' ++ rest)
          = piecesFrom (position + 1) ('\\' :: pending) (List.replicate count '\\' ++ rest) :=
            piecesFrom_cons (by decide) position pending _
        _ = piecesFrom (position + (count + 1)) (List.replicate (count + 1) '\\' ++ pending) rest := by
            rw [hypothesis, moved, Nat.add_assoc, Nat.add_comm 1]

theorem allPlain_slashes
    {text : List Char}
    (slashes : Slashes text)
    (position : Nat)
    (pending : List Char) :
    AllPlain (piecesFrom position pending text) := by
  induction text generalizing position pending with
  | nil =>
      rw [piecesFrom]
      exact allPlain_plainPiece _
  | cons c rest hypothesis =>
      have slash : c = '\\' := slashes c List.mem_cons_self
      subst slash
      rw [piecesFrom_cons (by decide)]
      exact hypothesis (fun d listed => slashes d (List.mem_cons_of_mem _ listed)) _ _

/-- The backslashes before a text that does not start with one. -/
theorem takeWhile_replicate_append
    {pending : List Char}
    (fresh : pending.head? ≠ some '\\')
    (count : Nat) :
    (List.replicate count '\\' ++ pending).takeWhile (· == '\\') =
      List.replicate count '\\' := by
  rw [List.takeWhile_append_of_pos fun c listed => by simp [List.eq_of_mem_replicate listed]]
  cases pending with
  | nil => exact List.append_nil _
  | cons c rest =>
      have other : (c == '\\') = false := by simpa using fresh
      rw [List.takeWhile_cons_of_neg (by simp [other])]
      exact List.append_nil _

/-- Of an escaped text all pieces are plain. -/
theorem allPlain_escapedFrom
    {slashes : Nat}
    {text tail pending : List Char}
    (ends : Slashes tail)
    (fresh : pending.head? ≠ some '\\')
    (position : Nat) :
    AllPlain (piecesFrom position pending (escapedFrom slashes text ++ tail)) := by
  fun_induction escapedFrom slashes text generalizing position pending with
  | case1 slashes =>
      have all : Slashes (List.replicate slashes '\\' ++ tail) := by
        intro c listed
        rcases List.mem_append.mp listed with slash | slash
        · exact List.eq_of_mem_replicate slash
        · exact ends c slash
      exact allPlain_slashes all position pending
  | case2 slashes rest hypothesis => exact hypothesis fresh position
  | case3 slashes inner content after isTag shorter hypothesis =>
      obtain ⟨_, free, starts⟩ := tag?_eq_some_iff.mp isTag
      have isTagThere : tag? (content ++ ']' :: (escapedFrom 0 after ++ tail)) =
          some (content, escapedFrom 0 after ++ tail) :=
        tag?_eq_some_iff.mpr ⟨rfl, free, starts⟩
      rw [List.append_assoc, List.append_assoc, List.cons_append, piecesFrom_replicate]
      change AllPlain (piecesFrom _ _ ('[' :: (content ++ ']' :: (escapedFrom 0 after ++ tail))))
      rw [piecesFrom_tag isTagThere, takeWhile_replicate_append fresh, List.length_replicate]
      dsimp only
      rw [if_pos (by omega)]
      refine .append (.append (allPlain_plainPiece _) (allPlain_plainPiece _)) ?_
      intro piece listed
      rcases List.mem_cons.mp listed with here | there
      · exact ⟨_, here⟩
      · exact hypothesis (by simp) _ piece there
  | case4 slashes inner noTag hypothesis =>
      rw [List.append_assoc, List.cons_append, piecesFrom_replicate,
        piecesFrom_bracket (tag?_escapedFrom ends noTag)]
      exact hypothesis (by simp) _
  | case5 slashes c rest notSlash notBracket hypothesis =>
      rw [List.append_assoc, List.cons_append, piecesFrom_replicate, piecesFrom_cons notBracket]
      exact hypothesis (by simpa using notSlash) _

theorem exists_toList_escaped (text : String) :
    ∃ tail, Slashes tail ∧ (escaped text).toList = escapedFrom 0 text.toList ++ tail := by
  unfold escaped
  dsimp only
  split
  · refine ⟨['\\'], fun c listed => List.mem_singleton.mp listed, ?_⟩
    exact String.toList_ofList
  · refine ⟨[], fun c listed => absurd listed List.not_mem_nil, ?_⟩
    rw [List.append_nil]
    exact String.toList_ofList

/-! ## Reports can be shown -/

/-- Plain pieces can be shown, whatever styles are open. -/
theorem exists_shownPieces
    {pieces : List Piece}
    (plain : AllPlain pieces)
    (opened : List String) :
    ∃ text, shownPieces opened pieces = .ok text := by
  induction pieces with
  | nil => exact ⟨[], rfl⟩
  | cons piece rest hypothesis =>
      obtain ⟨content, rfl⟩ := plain piece List.mem_cons_self
      obtain ⟨text, others⟩ :=
        hypothesis fun other listed => plain other (List.mem_cons_of_mem _ listed)
      exact ⟨shownText content ++ text, by rw [shownPieces, others]; rfl⟩

/-- The pieces of a report: a word in red, and the message. -/
theorem piecesFrom_report (message : List Char) :
    piecesFrom 0 [] ("[red]Error:[/red] ".toList ++ message) =
      .tag 0 "red".toList :: .plain "Error:".toList :: .tag 11 "/red".toList ::
        piecesFrom 18 [' '] message := by
  have opening : tag? ("red]Error:[/red] ".toList ++ message) =
      some ("red".toList, "Error:[/red] ".toList ++ message) :=
    tag?_eq_some_iff.mpr ⟨rfl, by simp [BracketFree, isBracket], by decide⟩
  have closing : tag? ("/red] ".toList ++ message) = some ("/red".toList, ' ' :: message) :=
    tag?_eq_some_iff.mpr ⟨rfl, by simp [BracketFree, isBracket], by decide⟩
  have word : piecesFrom 5 [] ("Error:[/red] ".toList ++ message) =
      piecesFrom 11 "Error:".toList.reverse ('[' :: ("/red] ".toList ++ message)) := by
    change piecesFrom 5 [] ('E' :: 'r' :: 'r' :: 'o' :: 'r' :: ':' :: _) = _
    iterate 6 rw [piecesFrom_cons (by decide)]
    rfl
  calc piecesFrom 0 [] ('[' :: ("red]Error:[/red] ".toList ++ message))
      = .tag 0 "red".toList :: piecesFrom 5 [] ("Error:[/red] ".toList ++ message) :=
        piecesFrom_tag opening 0 []
    _ = .tag 0 "red".toList :: .plain "Error:".toList :: .tag 11 "/red".toList ::
          piecesFrom 17 [] (' ' :: message) := by
        rw [word, piecesFrom_tag closing]
        rfl
    _ = .tag 0 "red".toList :: .plain "Error:".toList :: .tag 11 "/red".toList ::
          piecesFrom 18 [' '] message := by
        rw [piecesFrom_cons (by decide)]

/-- The report of a failure can be shown, and says that there is an error. -/
theorem exists_report (failure : Failure) :
    ∃ told, report failure = .ok ("Error:" ++ told) := by
  obtain ⟨tail, ends, same⟩ := exists_toList_escaped failure.message
  have plain : AllPlain (piecesFrom 18 [' '] (escaped failure.message).toList) := by
    rw [same]
    exact allPlain_escapedFrom ends (by decide) 18
  obtain ⟨text, message⟩ := exists_shownPieces plain []
  have opened : applyTag [] 0 "red".toList = .ok ["red"] := by decide
  have closed : applyTag ["red"] 11 "/red".toList = .ok [] := by decide
  have pieces : shownPieces [] (piecesFrom 0 []
      ("[red]Error:[/red] " ++ escaped failure.message).toList) =
        .ok ("Error:".toList ++ text) := by
    rw [String.toList_append, piecesFrom_report]
    simp only [shownPieces, opened, closed, bind, Except.bind, message]
    rfl
  have start : ∃ column, withoutTabs 0 ("Error:".toList ++ text) =
      "Error:".toList ++ withoutTabs column text := ⟨_, rfl⟩
  obtain ⟨column, start⟩ := start
  refine ⟨String.ofList (withoutTabs column text) ++ "\n", ?_⟩
  rw [report, line, shown, pieces]
  change Except.ok (String.ofList (withoutTabs 0 ("Error:".toList ++ text)) ++ "\n") = _
  rw [start, String.ofList_append, String.append_assoc]
  rfl

/-! ## Outcomes -/

theorem failureOutcome_eq (output : String) (failure : Failure) :
    (failure.isReported = true ∧
      ∃ told, failureOutcome output failure = { code := 1, output, errors := "Error:" ++ told }) ∨
    failure.isReported = false ∧
      failureOutcome output failure = brokenOff output (.failure failure) := by
  unfold failureOutcome
  cases reported : failure.isReported with
  | false => exact .inr ⟨rfl, rfl⟩
  | true =>
      obtain ⟨told, shown⟩ := exists_report failure
      have start := Text.withoutHalves_append (show Text.halfMark ∉ "Error:".toList by decide)
        told.toList
      rw [String.ofList_append, String.ofList_toList, String.ofList_toList] at start
      rw [shown]
      refine .inl ⟨rfl, Text.withoutHalves told, ?_⟩
      simp only [if_true, start]

theorem code_failureOutcome (output : String) (failure : Failure) :
    (failureOutcome output failure).code = 1 := by
  rcases failureOutcome_eq output failure with ⟨_, told, same⟩ | ⟨_, same⟩
  · rw [same]
  · rw [same]
    rfl

theorem breakdown_failureOutcome_iff
    {breakdown : Breakdown}
    (output : String)
    (failure : Failure) :
    (failureOutcome output failure).breakdown = some breakdown ↔
      failure.isReported = false ∧ breakdown = .failure failure := by
  rcases failureOutcome_eq output failure with ⟨reported, told, same⟩ | ⟨unreported, same⟩
  · simp [same, reported]
  · simp [same, unreported, brokenOff, eq_comm]

end CommandLine
end ApiTypings

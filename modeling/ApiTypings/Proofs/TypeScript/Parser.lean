import ApiTypings.Proofs.TypeScript.Grammar

/-!
# Reading types from left to right

A machine reads a type token by token and keeps what is open on a stack. Whatever
the grammar reads as a type, the machine reads as the same type. So no tokens are
read as two types.
-/

namespace ApiTypings
namespace TypeScript

/-- What was read of a type so far: the finished members of the union, and the
finished parts of the member that is being read. -/
structure Level where
  members : List Tree := []
  parts : List Tree := []

/-- A list of types that ends with the given one, as one type. -/
def joined (join : List Tree → Tree) (done : List Tree) (last : Tree) : Tree :=
  if done.isEmpty then last else join (done ++ [last])

namespace Level

/-- The member of the union that ends with an operand. -/
def member (level : Level) (operand : Tree) : Tree :=
  joined .intersection level.parts operand

/-- The type that ends with an operand. -/
def whole (level : Level) (operand : Tree) : Tree :=
  joined .union level.members (level.member operand)

end Level

/-- What lists types between brackets. -/
inductive Listing
  | tuple
  | generic (word : String)

namespace Listing

/-- The bracket that closes a list. -/
def closing : Listing → Char
  | .tuple => ']'
  | .generic _ => '>'

/-- The type of a list. -/
def tree : Listing → List Tree → Tree
  | .tuple, items => .tuple items
  | .generic word, items => .generic word items

end Listing

/-- What is open around a type that is being read, with the level to which the
reading returns. -/
inductive Frame
  | group (level : Level)
  | items (level : Level) (listing : Listing) (done : List Tree)
  | field
      (level : Level)
      (done : List (Field Tree))
      (key : MemberKey)
      (optional readonly : Bool)

/-- Where the machine stands. -/
inductive Machine
  /-- In front of an operand. -/
  | before (level : Level) (frames : List Frame)
  /-- Behind an operand. -/
  | behind (level : Level) (operand : Tree) (frames : List Frame)
  /-- Inside the suffix of an operand. -/
  | suffix (level : Level) (operand : Tree) (frames : List Frame)
  /-- Behind a sign. -/
  | negative (level : Level) (frames : List Frame)
  /-- In front of a member of an object. -/
  | member (level : Level) (done : List (Field Tree)) (frames : List Frame)
  /-- Behind the word `readonly`, which may also be a key. -/
  | modifier (level : Level) (done : List (Field Tree)) (frames : List Frame)
  /-- Inside the key of an index signature, of which so many tokens were read. -/
  | index (level : Level) (done : List (Field Tree)) (readonly : Bool) (read : Nat)
      (frames : List Frame)
  /-- Behind a key. -/
  | keyed (level : Level) (done : List (Field Tree)) (key : MemberKey) (readonly : Bool)
      (frames : List Frame)
  /-- Behind the mark of an optional member. -/
  | opted (level : Level) (done : List (Field Tree)) (key : MemberKey) (readonly : Bool)
      (frames : List Frame)

namespace Machine

/-- Read a token in front of an operand. -/
def stepOperand (level : Level) (frames : List Frame) : Token → Option Machine
  | .word word => some (.behind level (.name word) frames)
  | .number digits =>
      if isDecimal digits.toList then some (.behind level (.numeral false digits) frames) else none
  | .string raw =>
      (Json.unquote? raw).map fun content => .behind level (.string content) frames
  | .template raw => some (.behind level (.template raw) frames)
  | .mark '-' => some (.negative level frames)
  | .mark '(' => some (.before {} (.group level :: frames))
  | .mark '[' => some (.before {} (.items level .tuple [] :: frames))
  | .mark ']' =>
      match frames with
      | .items outer .tuple [] :: rest => some (.behind outer (.tuple []) rest)
      | _ => none
  | .mark '{' => some (.member level [] frames)
  | _ => none

/-- Read a token behind an operand. -/
def stepBehind (level : Level) (operand : Tree) (frames : List Frame) : Token → Option Machine
  | .mark '<' =>
      match operand with
      | .name word => some (.before {} (.items level (.generic word) [] :: frames))
      | _ => none
  | .mark '[' => some (.suffix level operand frames)
  | .mark '&' => some (.before ⟨level.members, level.parts ++ [operand]⟩ frames)
  | .mark '|' => some (.before ⟨level.members ++ [level.member operand], []⟩ frames)
  | .mark c =>
      match frames with
      | .group outer :: rest =>
          if c = ')' then some (.behind outer (level.whole operand) rest) else none
      | .items outer listing done :: rest =>
          if c = ',' then
            some (.before {} (.items outer listing (done ++ [level.whole operand]) :: rest))
          else if c = listing.closing then
            some (.behind outer (listing.tree (done ++ [level.whole operand])) rest)
          else none
      | .field outer done key optional readonly :: rest =>
          if c = ';' then
            some (.member outer (done ++ [⟨key, level.whole operand, optional, readonly⟩]) rest)
          else none
      | [] => none
  | _ => none

/-- Read the first token of a key. -/
def stepKey (level : Level) (done : List (Field Tree)) (readonly : Bool) (frames : List Frame) :
    Token → Option Machine
  | .word name => some (.keyed level done (.word name) readonly frames)
  | .number digits =>
      if isDecimal digits.toList then some (.keyed level done (.word digits) readonly frames)
      else none
  | .string raw =>
      (Json.unquote? raw).map fun name => .keyed level done (.quoted name) readonly frames
  | .mark '[' => some (.index level done readonly 0 frames)
  | _ => none

/-- Read a token. -/
def step : Machine → Token → Option Machine
  | .before level frames, token => stepOperand level frames token
  | .behind level operand frames, token => stepBehind level operand frames token
  | .suffix level operand frames, token =>
      if token = .mark ']' then some (.behind level (.array operand) frames) else none
  | .negative level frames, token =>
      match token with
      | .number digits =>
          if isDecimal digits.toList then some (.behind level (.numeral true digits) frames)
          else none
      | _ => none
  | .member level done frames, token =>
      if token = .mark '}' then some (.behind level (.object done) frames)
      else if token = .word "readonly" then some (.modifier level done frames)
      else stepKey level done false frames token
  | .modifier level done frames, token =>
      if token = .mark ':' then
        some (.before {} (.field level done (.word "readonly") false false :: frames))
      else if token = .mark '?' then some (.opted level done (.word "readonly") false frames)
      else stepKey level done true frames token
  | .index level done readonly read frames, token =>
      match read, token with
      | 0, .word _ => some (.index level done readonly 1 frames)
      | 1, .mark ':' => some (.index level done readonly 2 frames)
      | 2, .word "string" => some (.index level done readonly 3 frames)
      | 3, .mark ']' => some (.keyed level done .anyKey readonly frames)
      | _, _ => none
  | .keyed level done key readonly frames, token =>
      if token = .mark ':' then some (.before {} (.field level done key false readonly :: frames))
      else if token = .mark '?' then some (.opted level done key readonly frames)
      else none
  | .opted level done key readonly frames, token =>
      if token = .mark ':' then some (.before {} (.field level done key true readonly :: frames))
      else none

/-- Read several tokens. -/
def run (machine : Machine) : List Token → Option Machine
  | [] => some machine
  | token :: rest => (machine.step token).bind fun next => run next rest

@[simp] theorem run_nil (machine : Machine) : machine.run [] = some machine := rfl

@[simp] theorem run_cons (machine : Machine) (token : Token) (rest : List Token) :
    machine.run (token :: rest) = (machine.step token).bind fun next => next.run rest := rfl

theorem run_append (machine : Machine) (first second : List Token) :
    machine.run (first ++ second) = (machine.run first).bind fun next => next.run second := by
  induction first generalizing machine with
  | nil => rfl
  | cons token first hypothesis =>
      rw [List.cons_append, run_cons, run_cons, Option.bind_assoc]
      congr 1
      funext next
      exact hypothesis next

/-! ## Steps -/

section Steps

variable (level outer : Level) (operand : Tree) (frames : List Frame)

@[simp] theorem step_number (digits : String) :
    step (.before level frames) (.number digits) =
      if isDecimal digits.toList then some (.behind level (.numeral false digits) frames)
      else none := rfl

@[simp] theorem step_sign :
    step (.before level frames) (.mark '-') = some (.negative level frames) := rfl

@[simp] theorem step_negative_number (digits : String) :
    step (.negative level frames) (.number digits) =
      if isDecimal digits.toList then some (.behind level (.numeral true digits) frames)
      else none := rfl

@[simp] theorem step_string (raw : List Char) :
    step (.before level frames) (.string raw) =
      (Json.unquote? raw).map fun content => .behind level (.string content) frames := rfl

@[simp] theorem step_bar :
    step (.behind level operand frames) (.mark '|') =
      some (.before ⟨level.members ++ [level.member operand], []⟩ frames) := rfl

@[simp] theorem step_group_closed :
    step (.behind level operand (.group outer :: frames)) (.mark ')') =
      some (.behind outer (level.whole operand) frames) := rfl

@[simp] theorem step_comma (listing : Listing) (done : List Tree) :
    step (.behind level operand (.items outer listing done :: frames)) (.mark ',') =
      some (.before {} (.items outer listing (done ++ [level.whole operand]) :: frames)) := rfl

@[simp] theorem step_items_closed (listing : Listing) (done : List Tree) :
    step (.behind level operand (.items outer listing done :: frames)) (.mark listing.closing) =
      some (.behind outer (listing.tree (done ++ [level.whole operand])) frames) := by
  cases listing <;> rfl

@[simp] theorem step_semicolon
    (done : List (Field Tree))
    (key : MemberKey)
    (optional readonly : Bool) :
    step (.behind level operand (.field outer done key optional readonly :: frames)) (.mark ';') =
      some (.member outer (done ++ [⟨key, level.whole operand, optional, readonly⟩]) frames) := rfl

end Steps

/-- From in front of the tokens the machine gets behind the type. -/
def Recovers (tokens : List Token) (tree : Tree) : Binding → Prop
  | .operand => ∀ level frames, run (.before level frames) tokens = some (.behind level tree frames)
  | .intersection => ∀ members frames, ∃ parts last,
      run (.before ⟨members, []⟩ frames) tokens = some (.behind ⟨members, parts⟩ last frames) ∧
        joined .intersection parts last = tree
  | .union => ∀ frames, ∃ level last,
      run (.before {} frames) tokens = some (.behind level last frames) ∧ level.whole last = tree

/-! ## Lists in brackets -/

/-- A list between brackets is read item by item. -/
theorem run_items
    (outer : Level)
    (listing : Listing)
    (done : List Tree)
    (frames : List Frame)
    {items : List (List Token × Tree)}
    (nonempty : items ≠ [])
    (each : ∀ item ∈ items, Recovers item.1 item.2 .union) :
    run (.before {} (.items outer listing done :: frames))
        ([.mark ','].intercalate (items.map Prod.fst) ++ [.mark listing.closing]) =
      some (.behind outer (listing.tree (done ++ items.map Prod.snd)) frames) := by
  induction items generalizing done with
  | nil => contradiction
  | cons item rest hypothesis =>
      obtain ⟨level, last, ran, same⟩ :=
        each item List.mem_cons_self (.items outer listing done :: frames)
      cases rest with
      | nil =>
          simp only [List.map_cons, List.map_nil, List.intercalate_singleton]
          rw [run_append, ran]
          simp [same]
      | cons next rest =>
          have others := hypothesis (done ++ [item.2]) (by simp) fun other member =>
            each other (List.mem_cons_of_mem item member)
          simp only [List.map_cons, List.intercalate_cons_cons, List.append_assoc] at others ⊢
          rw [run_append, ran]
          simp only [Option.bind_some, List.cons_append, List.nil_append, run_cons, step_comma,
            same]
          exact others

/-! ## Members of objects -/

/-- Behind a key the machine can go on with its type or mark it as optional. -/
theorem run_key
    (level : Level)
    (done : List (Field Tree))
    (readonly : Bool)
    (frames : List Frame)
    {tokens : List Token}
    {key : MemberKey}
    (reads : ReadsKey tokens key) :
    ∃ next,
      run (if readonly then .modifier level done frames else .member level done frames) tokens =
          some next ∧
        next.step (.mark ':') =
          some (.before {} (.field level done key false readonly :: frames)) ∧
        next.step (.mark '?') = some (.opted level done key readonly frames) := by
  cases reads with
  | word name =>
      by_cases isModifier : name = "readonly"
      · subst isModifier
        cases readonly with
        | false => exact ⟨.modifier level done frames, by simp [step], by simp [step], by simp [step]⟩
        | true =>
            exact ⟨.keyed level done (.word "readonly") true frames, by simp [step, stepKey],
              by simp [step], by simp [step]⟩
      · refine ⟨.keyed level done (.word name) readonly frames, ?_, by simp [step], by simp [step]⟩
        cases readonly <;> simp [step, stepKey, isModifier]
  | @number digits decimal =>
      refine ⟨.keyed level done (.word digits) readonly frames, ?_, by simp [step], by simp [step]⟩
      cases readonly <;> simp [step, stepKey, decimal]
  | @quoted _ name unquoted =>
      refine ⟨.keyed level done (.quoted name) readonly frames, ?_, by simp [step], by simp [step]⟩
      cases readonly <;> simp [step, stepKey, unquoted]
  | anyKey name =>
      refine ⟨.keyed level done .anyKey readonly frames, ?_, by simp [step], by simp [step]⟩
      cases readonly <;> simp [step, stepKey]

/-- A member of an object is read as a whole. -/
theorem run_field
    (level : Level)
    (done : List (Field Tree))
    (frames : List Frame)
    {field : Field Tree}
    {key type : List Token}
    (readsKey : ReadsKey key field.key)
    (recovers : Recovers type field.type .union) :
    run (.member level done frames) (field.tokens key type) =
      some (.member level (done ++ [field]) frames) := by
  obtain ⟨name, tree, optional, readonly⟩ := field
  obtain ⟨next, ran, plain, marked⟩ := run_key level done readonly frames readsKey
  obtain ⟨inner, last, typed, same⟩ :=
    recovers (.field level done name optional readonly :: frames)
  have modified :
      run (.member level done frames) (if readonly then [.word "readonly"] else []) =
        some (if readonly then .modifier level done frames else .member level done frames) := by
    cases readonly <;> simp [step]
  have opened (rest : List Token) :
      next.run ((if optional then [.mark '?'] else []) ++ .mark ':' :: rest) =
        run (.before {} (.field level done name optional readonly :: frames)) rest := by
    cases optional with
    | false =>
        change next.run (.mark ':' :: rest) = _
        rw [run_cons, plain]
        rfl
    | true =>
        change next.run (.mark '?' :: .mark ':' :: rest) = _
        rw [run_cons, marked]
        rfl
  simp only [Field.tokens]
  rw [run_append, modified, Option.bind_some, run_append, ran, Option.bind_some, opened,
    run_append, typed, Option.bind_some]
  simp [same]

/-- The members of an object are read one after the other. -/
theorem run_fields
    (level : Level)
    (done : List (Field Tree))
    (frames : List Frame)
    {fields : List (Field Tree × List Token × List Token)}
    (keys : ∀ entry ∈ fields, ReadsKey entry.2.1 entry.1.key)
    (types : ∀ entry ∈ fields, Recovers entry.2.2 entry.1.type .union) :
    run (.member level done frames)
        (fields.flatMap fun entry => entry.1.tokens entry.2.1 entry.2.2) =
      some (.member level (done ++ fields.map Prod.fst) frames) := by
  induction fields generalizing done with
  | nil => simp
  | cons entry rest hypothesis =>
      have first := run_field level done frames (keys entry List.mem_cons_self)
        (types entry List.mem_cons_self)
      have others := hypothesis (done ++ [entry.1])
        (fun other member => keys other (List.mem_cons_of_mem entry member))
        (fun other member => types other (List.mem_cons_of_mem entry member))
      rw [List.flatMap_cons, run_append, first, Option.bind_some, others, List.map_cons,
        List.append_assoc]
      rfl

/-! ## Operators -/

/-- The operands of an intersection are collected. -/
theorem run_parts
    (members parts : List Tree)
    (frames : List Frame)
    {items : List (List Token × Tree)}
    (nonempty : items ≠ [])
    (each : ∀ item ∈ items, Recovers item.1 item.2 .operand) :
    ∃ init last, items.map Prod.snd = init ++ [last] ∧
      run (.before ⟨members, parts⟩ frames) ([.mark '&'].intercalate (items.map Prod.fst)) =
        some (.behind ⟨members, parts ++ init⟩ last frames) := by
  induction items generalizing parts with
  | nil => contradiction
  | cons item rest hypothesis =>
      have ran := each item List.mem_cons_self ⟨members, parts⟩ frames
      cases rest with
      | nil =>
          refine ⟨[], item.2, rfl, ?_⟩
          simp only [List.map_cons, List.map_nil, List.intercalate_singleton, List.append_nil]
          exact ran
      | cons next rest =>
          obtain ⟨init, last, same, others⟩ := hypothesis (parts ++ [item.2]) (by simp)
            fun other member => each other (List.mem_cons_of_mem item member)
          refine ⟨item.2 :: init, last, by rw [List.map_cons, same]; rfl, ?_⟩
          simp only [List.map_cons, List.intercalate_cons_cons, List.append_assoc] at others ⊢
          rw [run_append, ran]
          exact others

/-- The members of a union are collected. -/
theorem run_members
    (members : List Tree)
    (frames : List Frame)
    {items : List (List Token × Tree)}
    (nonempty : items ≠ [])
    (each : ∀ item ∈ items, Recovers item.1 item.2 .intersection) :
    ∃ init parts last, items.map Prod.snd = init ++ [joined .intersection parts last] ∧
      run (.before ⟨members, []⟩ frames) ([.mark '|'].intercalate (items.map Prod.fst)) =
        some (.behind ⟨members ++ init, parts⟩ last frames) := by
  induction items generalizing members with
  | nil => contradiction
  | cons item rest hypothesis =>
      obtain ⟨parts, last, ran, whole⟩ := each item List.mem_cons_self members frames
      cases rest with
      | nil =>
          refine ⟨[], parts, last, by rw [whole]; rfl, ?_⟩
          simp only [List.map_cons, List.map_nil, List.intercalate_singleton, List.append_nil]
          exact ran
      | cons next rest =>
          obtain ⟨init, others, final, same, more⟩ := hypothesis (members ++ [item.2]) (by simp)
            fun other member => each other (List.mem_cons_of_mem item member)
          refine ⟨item.2 :: init, others, final, by rw [List.map_cons, same]; rfl, ?_⟩
          simp only [List.map_cons, List.intercalate_cons_cons, List.append_assoc] at more ⊢
          rw [run_append, ran, Option.bind_some, List.cons_append, run_cons]
          simp only [step_bar, Level.member, whole, Option.bind_some]
          exact more

/-- Several types are joined as soon as there are two. -/
theorem joined_eq
    (join : List Tree → Tree)
    {all init : List Tree}
    {last : Tree}
    (same : all = init ++ [last])
    (several : 2 ≤ all.length) :
    joined join init last = join all := by
  subst same
  cases init with
  | nil => simp at several
  | cons first rest => rfl

end Machine

open Machine

/-- What the grammar reads as a type, the machine reads as the same type. -/
theorem Reads.recovers
    {binding : Binding}
    {tokens : List Token}
    {tree : Tree}
    (reads : Reads binding tokens tree) :
    Recovers tokens tree binding := by
  induction reads with
  | name word => exact fun level frames => rfl
  | number decimal =>
      intro level frames
      simp [decimal]
  | negative decimal =>
      intro level frames
      simp [decimal]
  | string unquoted =>
      intro level frames
      simp [unquoted]
  | template raw => exact fun level frames => rfl
  | generic word nonempty _ each =>
      intro level frames
      exact run_items level (.generic word) [] frames nonempty each
  | array _ recovers =>
      intro level frames
      rw [run_append, recovers level frames]
      rfl
  | @tuple items _ each =>
      intro level frames
      cases items with
      | nil => rfl
      | cons item rest => exact run_items level .tuple [] frames (by simp) each
  | object keys _ types =>
      intro level frames
      rw [run_cons]
      change Machine.run (.member level [] frames) _ = _
      rw [run_append, run_fields level [] frames keys types]
      rfl
  | group _ recovers =>
      intro level frames
      obtain ⟨inner, last, ran, same⟩ := recovers (.group level :: frames)
      rw [run_cons]
      change Machine.run (.before {} (.group level :: frames)) _ = _
      rw [run_append, ran]
      simp [same]
  | part _ recovers =>
      intro members frames
      exact ⟨[], _, recovers ⟨members, []⟩ frames, rfl⟩
  | intersection several _ each =>
      intro members frames
      obtain ⟨init, last, same, ran⟩ :=
        run_parts members [] frames (List.ne_nil_of_length_pos (by omega)) each
      exact ⟨init, last, ran, joined_eq .intersection same (by simpa using several)⟩
  | member _ recovers =>
      intro frames
      obtain ⟨parts, last, ran, same⟩ := recovers [] frames
      exact ⟨⟨[], parts⟩, last, ran, same⟩
  | union several _ each =>
      intro frames
      obtain ⟨init, parts, last, same, ran⟩ :=
        run_members [] frames (List.ne_nil_of_length_pos (by omega)) each
      exact ⟨⟨init, parts⟩, last, ran, joined_eq .union same (by simpa using several)⟩

/-- No tokens are read as two types. -/
theorem Reads.unique
    {tokens : List Token}
    {first second : Tree}
    (left : Reads .union tokens first)
    (right : Reads .union tokens second) :
    first = second := by
  obtain ⟨level, last, ran, whole⟩ := left.recovers []
  obtain ⟨other, final, ranToo, wholeToo⟩ := right.recovers []
  rw [ran] at ranToo
  cases ranToo
  rw [← whole, ← wholeToo]

end TypeScript
end ApiTypings

import ApiTypings.Decimal.Layout
import ApiTypings.Decimal.Numeral
import ApiTypings.Document.Issue
import ApiTypings.Value

/-!
# Normal forms

A value is checked against a shape and brought into normal form: numbers and
flags that are given as text are read, fields stand under their keys in the
order of their model, and keys that the model does not know follow.
-/

namespace ApiTypings
namespace Document

/-- The texts that mean no. -/
def noWords : List String := ["0", "off", "f", "false", "n", "no"]

/-- The texts that mean yes. -/
def yesWords : List String := ["1", "on", "t", "true", "y", "yes"]

/-- A flag given as text, in any case. -/
def flagOfText? (content : String) : Option Bool :=
  let word := String.ofList (Text.lowerAscii content.toList)
  if noWords.contains word then some false
  else if yesWords.contains word then some true
  else none

/-- Whether an integer has at most 64 bits. -/
def isWord (number : Int) : Bool :=
  -Int.pow 2 63 ≤ number && number < Int.pow 2 63

/-- The flag of an integer. -/
def checkIntFlag (number : Int) : Checked Bool :=
  if number = 0 then .ok false
  else if number = 1 then .ok true
  else .fail .unreadableFlag

/-- The integer that a float holds, if it has at most 64 bits. -/
def wordOfFloat? (number : Float) : Option Int :=
  (Decimal.integral? number).filter fun whole =>
    -Int.pow 2 63 < whole && whole < Int.pow 2 63

/-- The flag of a value. -/
def checkFlag : Value → Checked Bool
  | .bool flag => .ok flag
  | .int number => if isWord number then checkIntFlag number else .fail .notFlag
  | .float number =>
      match wordOfFloat? number with
      | none => .fail .notFlag
      | some whole => checkIntFlag whole
  | .text content =>
      match flagOfText? content with
      | some flag => .ok flag
      | none => .fail .unreadableFlag
  | _ => .fail .notFlag

/-- The text of a value; numbers are written out. -/
def checkText : Value → Checked String
  | .text content => .ok content
  | .int number =>
      if Decimal.isWritable number then .ok (toString number) else .fail .longInteger
  | .float number => .ok (Decimal.Layout.plain.text number)
  | _ => .fail .notText

/-- The text of a value that is a text. -/
def checkStrictText : Value → Checked String
  | .text content => .ok content
  | _ => .fail .notText

/-- The integer of a value. A float must hold an integer of 64 bits. -/
def checkInteger : Value → Checked Int
  | .int number => .ok number
  | .bool flag => .ok (if flag then 1 else 0)
  | .float number =>
      if !number.isFinite then .fail .infiniteInteger
      else
        match Decimal.integral? number, wordOfFloat? number with
        | _, some whole => .ok whole
        | some _, none => .fail .oversizedInteger
        | none, none => .fail .fractionalInteger
  | .text content =>
      match Decimal.integer content.toList with
      | .ok number => .ok number
      | .error .oversized => .fail .oversizedInteger
      | .error .malformed => .fail .unreadableInteger
  | _ => .fail .notInteger

/-- The number of a value. -/
def checkNumber : Value → Checked Float
  | .float number => .ok number
  | .int number =>
      match Decimal.ofInt? number with
      | some x => .ok x
      | none => .fail .notNumber
  | .bool flag => .ok (if flag then 1.0 else 0.0)
  | .text content =>
      match Decimal.float? content.toList with
      | some x => .ok x
      | none => .fail .unreadableNumber
  | _ => .fail .notNumber

/-- A number that is not given as a flag. -/
def checkFlagOrNumber (value : Value) : Checked Value :=
  let flag := checkFlag value
  let number := checkNumber value
  let neither : Checked Value :=
    .error ((flag.under "bool").issues ++ (number.under "float").issues)
  match value with
  | .bool flag => .ok (.bool flag)
  | .text _ =>
      match flag, number with
      | .ok flag, _ => .ok (.bool flag)
      | _, .ok x => .ok (.float x)
      | _, _ => neither
  | _ =>
      match number with
      | .ok x => .ok (.float x)
      | .error _ => neither

/-- A list of texts, each under its index. -/
def checkTexts (index : Nat) : List Value → Checked (List String)
  | [] => .ok []
  | item :: rest =>
      .cons ((checkText item).under (toString index)) (checkTexts (index + 1) rest)

/-- A list of texts. -/
def checkTextList : Value → Checked Value
  | .list items => (checkTexts 0 items).map fun texts => .list (texts.map .text)
  | _ => .fail .notList

/-- A text or a list of texts. -/
def checkTextOrTexts (value : Value) : Checked Value :=
  match checkText value, checkTextList value with
  | .ok content, _ => .ok (.text content)
  | _, .ok texts => .ok texts
  | text, texts => .error ((text.under "str").issues ++ (texts.under "list[str]").issues)

/-- Whether a key is an extension. -/
def isExtension (key : String) : Bool :=
  Text.startsWith ['x', '-'] key.toList

/-- Whether a key of any kind is an extension. -/
def isExtensionKey (key : Key) : Bool :=
  (key.text?.map isExtension).getD false

/-- A key as a part of a place. -/
def keyPlace : Key → String
  | .null => "None"
  | .bool flag => if flag then "1" else "0"
  | .int number => toString number
  | .float number => Decimal.Layout.plain.text number
  | .text content => content
  | .moment moment => moment.expression

/-- The text of a key of a map; numbers are written out. -/
def checkKey (key : Key) : Checked String :=
  ((checkText key.value).under "[key]").under (keyPlace key)

/-- The entry that gives a field: the one under its key, or else the one under
its second spelling. -/
def Field.find? (field : Field) (entries : List (String × Value)) :
    Option { entry : String × Value // entry ∈ entries } :=
  match Entries.find? entries field.key with
  | some found => some ⟨(field.key, found.val), found.property⟩
  | none =>
      (Entries.find? entries field.spelling).map fun found =>
        ⟨(field.spelling, found.val), found.property⟩

/-- The keys of a mapping that give fields. -/
def usedKeys (fields : List Field) (entries : List (String × Value)) : List String :=
  fields.filterMap fun field => (field.find? entries).map fun found => found.val.1

/-- The entries that give no field. -/
def unknownEntries (fields : List Field) (entries : List (String × Value)) :
    List (String × Value) :=
  let used := usedKeys fields entries
  entries.filter fun entry => !used.contains entry.1

/-- What a model makes of the entries that give no field, and of the keys that
are no texts. -/
def checkUnknown (model : Model) (entries : List (String × Value)) (strays : List Key) :
    Checked (List (String × Value)) :=
  let unknown := unknownEntries model.fields entries
  match model.unknown with
  | .kept =>
      if strays.isEmpty then .ok unknown
      else .error (strays.map fun key => ⟨[keyPlace key], .strayKey⟩)
  | .dropped => .ok []
  | .refused =>
      if unknown.isEmpty then .ok []
      else .error (unknown.map fun entry => ⟨[entry.1], .unexpected⟩)

/-- Whether a mapping is a reference. -/
def isReference (entries : List (String × Value)) : Bool :=
  (Entries.find? entries "$ref").isSome

/-- The label of the part of a union that is neither a flag nor a text. -/
def schemaBranch : String := "tagged-union[Reference,...]"

mutual

/-- The normal form of a value of a shape. -/
def normalize (shape : Shape) (value : Value) : Checked Value :=
  match shape with
  | .any => .ok value
  | .text => (checkText value).map .text
  | .strictText => (checkStrictText value).map .text
  | .flag => (checkFlag value).map .bool
  | .integer => (checkInteger value).map .int
  | .number => (checkNumber value).map .float
  | .flagOrNumber => checkFlagOrNumber value
  | .textOrTexts => checkTextOrTexts value
  | .textsUnlessFlag =>
      match value with
      | .bool _ => .ok .null
      | other => checkTextList other
  | .optional inner =>
      match value with
      | .null => .ok .null
      | other => normalize inner other
  | .list item =>
      match value with
      | .list items => (normalizeItems item 0 items).map .list
      | _ => .fail .notList
  | .map item =>
      match value with
      | .mapping entries => (normalizeEntries item entries).map .mapping
      | .keyed entries => (normalizeKeyed item entries).map .mapping
      | _ => .fail .notMapping
  | .extensibleMap item =>
      match value with
      | .mapping entries =>
          (normalizeEntries item (entries.filter fun entry => !isExtension entry.1)).map
            .mapping
      | .keyed entries =>
          (normalizeKeyed item (entries.filter fun entry => !isExtensionKey entry.1)).map
            .mapping
      | .null => .ok (.mapping [])
      | _ => .fail .notMapping
  | .model model =>
      match value with
      | .mapping entries => normalizeModel model entries []
      | .keyed entries =>
          normalizeModel model (Value.textEntries entries) (Value.strayKeys entries)
      | _ => .fail (.notModel model)
  | .orReference model =>
      match value with
      | .mapping entries => normalizeTagged model entries []
      | .keyed entries =>
          normalizeTagged model (Value.textEntries entries) (Value.strayKeys entries)
      | _ => (Checked.fail (.notModel model)).under "object"
  | .flagOrSchema =>
      let flag : Checked Value := (checkFlag value).map .bool
      match flag with
      | .ok normal => .ok normal
      | .error _ =>
          let schema : Checked Value :=
            match value with
            | .mapping entries => normalizeTagged .schema entries []
            | .keyed entries =>
                normalizeTagged .schema (Value.textEntries entries) (Value.strayKeys entries)
            | _ => (Checked.fail (.notModel .schema)).under "object"
          match schema with
          | .ok normal => .ok normal
          | .error _ =>
              .error ((flag.under "bool").issues ++ (schema.under schemaBranch).issues)
termination_by (sizeOf value, sizeOf shape, 0)
decreasing_by
  · exact Prod.Lex.right _ (Prod.Lex.left _ _ (by simp only [Shape.optional.sizeOf_spec]; omega))
  · exact Prod.Lex.left _ _ (by simp only [Value.list.sizeOf_spec]; omega)
  · exact Prod.Lex.left _ _ (by simp only [Value.mapping.sizeOf_spec]; omega)
  · exact Prod.Lex.left _ _ (by simp only [Value.keyed.sizeOf_spec]; omega)
  · exact Prod.Lex.left _ _ (by
      have bound := Value.sizeOf_filter_le (fun entry => !isExtension entry.1) entries
      simp only [Value.mapping.sizeOf_spec]
      omega)
  · exact Prod.Lex.left _ _ (by
      have bound := Value.sizeOf_filter_le (fun entry => !isExtensionKey entry.1) entries
      simp only [Value.keyed.sizeOf_spec]
      omega)
  · exact Prod.Lex.left _ _ (by simp only [Value.mapping.sizeOf_spec]; omega)
  · exact Prod.Lex.left _ _ (by
      have bound := Value.sizeOf_textEntries_le entries
      simp only [Value.keyed.sizeOf_spec]
      omega)
  · exact Prod.Lex.left _ _ (by simp only [Value.mapping.sizeOf_spec]; omega)
  · exact Prod.Lex.left _ _ (by
      have bound := Value.sizeOf_textEntries_le entries
      simp only [Value.keyed.sizeOf_spec]
      omega)
  · exact Prod.Lex.left _ _ (by simp only [Value.mapping.sizeOf_spec]; omega)
  · exact Prod.Lex.left _ _ (by
      have bound := Value.sizeOf_textEntries_le entries
      simp only [Value.keyed.sizeOf_spec]
      omega)

/-- The items of a list, each under its index. -/
def normalizeItems (shape : Shape) (index : Nat) (items : List Value) :
    Checked (List Value) :=
  match items with
  | [] => .ok []
  | item :: rest =>
      .cons ((normalize shape item).under (toString index))
        (normalizeItems shape (index + 1) rest)
termination_by (sizeOf items, 0, 0)

/-- The entries of a map, each under its key. -/
def normalizeEntries (shape : Shape) (entries : List (String × Value)) :
    Checked (List (String × Value)) :=
  match entries with
  | [] => .ok []
  | (key, value) :: rest =>
      .cons (((normalize shape value).under key).map fun normal => (key, normal))
        (normalizeEntries shape rest)
termination_by (sizeOf entries, 0, 0)

/-- The entries of a map whose keys are not all texts, each under its key. The
last value of a key counts. -/
def normalizeKeyed (shape : Shape) (entries : List (Key × Value)) :
    Checked (List (String × Value)) :=
  (normalizePairs shape entries).map Entries.ofPairs
termination_by (sizeOf entries, 1, 0)

/-- The entries of a map with their keys as texts. -/
def normalizePairs (shape : Shape) (entries : List (Key × Value)) :
    Checked (List (String × Value)) :=
  match entries with
  | [] => .ok []
  | (key, value) :: rest =>
      .cons (Checked.both (checkKey key) ((normalize shape value).under (keyPlace key)))
        (normalizePairs shape rest)
termination_by (sizeOf entries, 0, 0)

/-- The fields that the entries of an object give, in the order of its model. -/
def normalizeFields (fields : List Field) (entries : List (String × Value)) :
    Checked (List (String × Value)) :=
  match fields with
  | [] => .ok []
  | field :: rest =>
      match field.find? entries with
      | some found =>
          .cons (((normalize field.shape found.val.2).under found.val.1).map fun normal =>
              (field.key, normal))
            (normalizeFields rest entries)
      | none =>
          if field.required then
            (Checked.both ((Checked.fail .missing : Checked Unit).under field.key)
              (normalizeFields rest entries)).map Prod.snd
          else normalizeFields rest entries
termination_by (sizeOf entries, 0, sizeOf fields)
decreasing_by
  · exact Prod.Lex.left _ _ (Value.sizeOf_lt_of_entry found.property)
  all_goals
    exact Prod.Lex.right _ (Prod.Lex.right _ (by simp only [List.cons.sizeOf_spec]; omega))

/-- The normal form of an object of a model. -/
def normalizeModel (model : Model) (entries : List (String × Value)) (strays : List Key) :
    Checked Value :=
  (Checked.both (normalizeFields model.fields entries)
    (checkUnknown model entries strays)).map fun pair => .mapping (pair.1 ++ pair.2)
termination_by (sizeOf entries, 1, 0)

/-- The normal form of a reference or of an object of a model. -/
def normalizeTagged (model : Model) (entries : List (String × Value)) (strays : List Key) :
    Checked Value :=
  if isReference entries then (normalizeModel .reference entries strays).under "reference"
  else (normalizeModel model entries strays).under "object"
termination_by (sizeOf entries, 2, 0)

end

end Document
end ApiTypings

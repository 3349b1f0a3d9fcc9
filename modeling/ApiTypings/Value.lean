import ApiTypings.Calendar
import ApiTypings.Decimal.Numeral

/-!
# Document values

A value is what a JSON, YAML or TOML text denotes. Integers and floats are kept
apart, and the entries of a mapping keep the order in which they were written.
Entries are association lists in order of first insertion. The keys of a mapping
are texts; where other scalars are among them, it is a keyed value.
-/

namespace ApiTypings

namespace Entries

variable {κ α β : Type} [BEq κ]

/-- Give `key` a value: a known key keeps its place, a new one goes last. -/
def put (entries : List (κ × α)) (key : κ) (value : α) : List (κ × α) :=
  match entries with
  | [] => [(key, value)]
  | entry :: rest =>
      if entry.1 == key then (key, value) :: rest
      else entry :: put rest key value

/-- Collect pairs one by one, so that the last value of a key wins at its
first place. -/
def ofPairs (pairs : List (κ × α)) : List (κ × α) :=
  pairs.foldl (fun entries pair => put entries pair.1 pair.2) []

/-- The keys, in order. -/
def keys (entries : List (κ × α)) : List κ :=
  entries.map Prod.fst

/-- The entry of a key together with the proof that it is one of the list. -/
def find? [LawfulBEq κ] (entries : List (κ × α)) (key : κ) :
    Option { value : α // (key, value) ∈ entries } :=
  match entries with
  | [] => none
  | entry :: rest =>
      if same : entry.1 == key then
        some ⟨entry.2, by
          have known : entry.1 = key := eq_of_beq same
          subst known
          exact List.mem_cons_self⟩
      else
        (find? rest key).map fun found =>
          ⟨found.val, List.mem_cons_of_mem entry found.property⟩

/-- What is there after a key was given a value was there before or is new. -/
theorem mem_of_mem_put
    {entries : List (κ × α)}
    {key : κ}
    {value : α}
    {entry : κ × α}
    (member : entry ∈ put entries key value) :
    entry ∈ entries ∨ entry = (key, value) := by
  induction entries with
  | nil => simpa [put] using member
  | cons head rest induction =>
      unfold put at member
      split at member
      · cases List.mem_cons.mp member with
        | inl new => exact .inr new
        | inr old => exact .inl (List.mem_cons_of_mem head old)
      · cases List.mem_cons.mp member with
        | inl same => exact .inl (same ▸ List.mem_cons_self)
        | inr later =>
            cases induction later with
            | inl old => exact .inl (List.mem_cons_of_mem head old)
            | inr new => exact .inr new

/-- Every entry collected on top of others is one of them or one of the pairs. -/
theorem mem_of_mem_foldl_put
    {pairs start : List (κ × α)}
    {entry : κ × α}
    (member : entry ∈ pairs.foldl (fun entries pair => put entries pair.1 pair.2) start) :
    entry ∈ start ∨ entry ∈ pairs := by
  induction pairs generalizing start with
  | nil => exact .inl member
  | cons pair rest induction =>
      cases induction member with
      | inr later => exact .inr (List.mem_cons_of_mem pair later)
      | inl earlier =>
          cases mem_of_mem_put earlier with
          | inl old => exact .inl old
          | inr new => exact .inr (new ▸ List.mem_cons_self)

/-- Every collected entry is one of the pairs. -/
theorem mem_of_mem_ofPairs
    {pairs : List (κ × α)}
    {entry : κ × α}
    (member : entry ∈ ofPairs pairs) :
    entry ∈ pairs := by
  cases mem_of_mem_foldl_put member with
  | inl impossible => simp at impossible
  | inr found => exact found

end Entries

/-- A scalar that is the key of an entry. -/
inductive Key
  | null
  | bool (flag : Bool)
  | int (number : Int)
  | float (number : Float)
  | text (content : String)
  | moment (moment : Moment)
  deriving Inhabited

namespace Key

/-- The integer that a key equals, flags counting as zero and one. -/
def integer? : Key → Option Int
  | .bool flag => some (if flag then 1 else 0)
  | .int number => some number
  | .float number => Decimal.integral? number
  | _ => none

/-- Whether two keys name the same entry. Numbers are compared by value, and a
key that is no number equals itself. -/
def same (first second : Key) : Bool :=
  match first, second with
  | .null, .null => true
  | .text a, .text b => a == b
  | .moment a, .moment b => a == b
  | .float a, .float b => a == b || (a.isNaN && b.isNaN)
  | a, b => a.integer?.isSome && a.integer? == b.integer?

/-- The content of a text. -/
def text? : Key → Option String
  | .text content => some content
  | _ => none

end Key

/-- A document value. -/
inductive Value
  | null
  | bool (flag : Bool)
  | int (number : Int)
  | float (number : Float)
  | text (content : String)
  | moment (moment : Moment)
  | list (items : List Value)
  | mapping (entries : List (String × Value))
  | keyed (entries : List (Key × Value))
  deriving Inhabited

/-- The value of a key. -/
def Key.value : Key → Value
  | .null => .null
  | .bool flag => .bool flag
  | .int number => .int number
  | .float number => .float number
  | .text content => .text content
  | .moment given => .moment given

namespace Value

/-- The key that a value can be, if it is a scalar. -/
def key? : Value → Option Key
  | .null => some .null
  | .bool flag => some (.bool flag)
  | .int number => some (.int number)
  | .float number => some (.float number)
  | .text content => some (.text content)
  | .moment given => some (.moment given)
  | .list _ | .mapping _ | .keyed _ => none

/-- Give a key a value: the first spelling of a known key stays at its place, a
new key goes last. -/
def putKey (entries : List (Key × Value)) (key : Key) (value : Value) : List (Key × Value) :=
  match entries with
  | [] => [(key, value)]
  | entry :: rest =>
      if entry.1.same key then (entry.1, value) :: rest else entry :: putKey rest key value

/-- The entries whose keys are texts. -/
def textEntries : List (Key × Value) → List (String × Value)
  | [] => []
  | (.text content, value) :: rest => (content, value) :: textEntries rest
  | _ :: rest => textEntries rest

/-- The keys that are no texts. -/
def strayKeys (entries : List (Key × Value)) : List Key :=
  (entries.map Prod.fst).filter fun key => key.text?.isNone

/-- The value with the given entries, of which the last of a key counts. -/
def ofEntries (pairs : List (Key × Value)) : Value :=
  let entries := pairs.foldl (fun entries pair => putKey entries pair.1 pair.2) []
  if (strayKeys entries).isEmpty then .mapping (textEntries entries) else .keyed entries

/-- Whether a value counts as present: the empty text, the empty collections,
zero, `false` and `null` do not. -/
def isTruthy : Value → Bool
  | .null => false
  | .bool flag => flag
  | .int number => number != 0
  | .float number => number != 0.0
  | .text content => content != ""
  | .moment _ => true
  | .list items => !items.isEmpty
  | .mapping entries => !entries.isEmpty
  | .keyed entries => !entries.isEmpty

/-- Whether a value is a mapping, whatever its keys are. -/
def isMapping : Value → Bool
  | .mapping _ | .keyed _ => true
  | _ => false

/-- The content of a text. -/
def text? : Value → Option String
  | .text content => some content
  | _ => none

/-- The items of a list. -/
def list? : Value → Option (List Value)
  | .list items => some items
  | _ => none

/-- The entries of a mapping. -/
def mapping? : Value → Option (List (String × Value))
  | .mapping entries => some entries
  | _ => none

/-- The value of a key of a mapping. -/
def get? (value : Value) (key : String) : Option Value :=
  value.mapping?.bind (·.lookup key)

/-- An entry of a mapping is smaller than the list of entries. -/
theorem sizeOf_lt_of_entry
    {key : String}
    {value : Value}
    {entries : List (String × Value)}
    (member : (key, value) ∈ entries) :
    sizeOf value < sizeOf entries := by
  have smaller := List.sizeOf_lt_of_mem member
  simp only [Prod.mk.sizeOf_spec] at smaller
  omega

/-- Dropping entries does not make a mapping larger. -/
theorem sizeOf_filter_le
    {κ : Type}
    [SizeOf κ]
    (keep : κ × Value → Bool)
    (entries : List (κ × Value)) :
    sizeOf (entries.filter keep) ≤ sizeOf entries := by
  induction entries with
  | nil => simp
  | cons entry rest induction =>
      by_cases kept : keep entry
      · simp [List.filter_cons_of_pos kept, induction]
      · rw [List.filter_cons_of_neg kept]
        simp only [List.cons.sizeOf_spec]
        omega

/-- Texts as keys are no larger than other keys. -/
theorem sizeOf_textEntries_le (entries : List (Key × Value)) :
    sizeOf (textEntries entries) ≤ sizeOf entries := by
  fun_induction textEntries entries with
  | case1 => simp
  | case2 content value rest induction =>
      simp only [List.cons.sizeOf_spec, Prod.mk.sizeOf_spec, Key.text.sizeOf_spec]
      omega
  | case3 entry rest _ induction =>
      simp only [List.cons.sizeOf_spec]
      omega

end Value

end ApiTypings

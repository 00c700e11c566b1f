import Typesmith.Proofs.Walk
import Typesmith.Synthesis.Target

/-! # Reading raw JSON back

Every language writes a JSON value in such a way that the text says all there is to the value: the
members of its objects by name, and its numbers as they are printed. One reader serves all languages,
for it only needs their brackets.
-/

namespace Typesmith

open Json (Value)

namespace Json

/-- What counts of a value: of a number its text, of an object the dictionary of its members. -/
inductive Datum where
  | null
  | bool (value : Bool)
  | number (text : String)
  | string (value : String)
  | array (items : List Datum)
  | object (members : List (String × Datum))

mutual

def Value.datum : Value → Datum
  | .null => .null
  | .bool b => .bool b
  | .number n => .number n.text
  | .string s => .string s
  | .array items => .array (datumItems items)
  | .object members => .object (byName (datumMembers members))

def Value.datumItems : List Value → List Datum
  | [] => []
  | item :: rest => item.datum :: datumItems rest

def Value.datumMembers : List (String × Value) → List (String × Datum)
  | [] => []
  | (name, value) :: rest => (name, value.datum) :: datumMembers rest

end

namespace Value

theorem datumItems_eq {items : List Value} : datumItems items = items.map datum := by
  induction items with
  | nil => rfl
  | cons item rest ih => rw [datumItems, List.map_cons, ih]

theorem datumMembers_eq {members : List (String × Value)} :
    datumMembers members = members.map fun member => (member.1, member.2.datum) := by
  induction members with
  | nil => rfl
  | cons member rest ih => rw [datumMembers, List.map_cons, ih]

theorem datum_array {items : List Value} : (array items).datum = .array (items.map datum) := by
  rw [datum, datumItems_eq]

theorem datum_object {members : List (String × Value)} : (object members).datum =
    .object ((byName members).map fun member => (member.1, member.2.datum)) := by
  rw [datum, datumMembers_eq, byName_map fun member : String × Value => member.2.datum]

theorem datum_object_eq_iff {members others : List (String × Value)} :
    (object members).datum = (object others).datum ↔ ∀ name,
      ((Dict.ofList members).get? name).map datum = ((Dict.ofList others).get? name).map datum := by
  have found (members : List (String × Value)) (name : String) :
      (Dict.ofList (datumMembers members)).get? name =
        ((Dict.ofList members).get? name).map datum := by
    rw [datumMembers_eq, Dict.get?_ofList_map]
  have same : (object members).datum = (object others).datum ↔
      Dict.ofList (datumMembers members) = Dict.ofList (datumMembers others) := by
    rw [datum, datum, Datum.object.injEq]
    exact ⟨fun eq => by simp only [Dict.ofList, eq], fun eq => congrArg Dict.entries eq⟩
  simp only [same, ← found]
  exact ⟨fun eq name => by rw [eq], Dict.ext_get?⟩

end Value

def isNumeric (c : Char) : Bool :=
  c.isDigit || c = '-' || c = '+' || c = '.' || c = 'e'

def IsNumeral (cs : List Char) : Prop :=
  ∃ c rest, cs = c :: rest ∧ c.isDigit = true ∧ ∀ d ∈ rest, isNumeric d = true

namespace IsNumeral

variable {cs ds : List Char}

theorem all (h : IsNumeral cs) : ∀ c ∈ cs, isNumeric c = true := by
  obtain ⟨c, rest, rfl, first, others⟩ := h
  exact List.forall_mem_cons.mpr ⟨by simp [isNumeric, first], others⟩

theorem append (h : IsNumeral cs) (more : ∀ d ∈ ds, isNumeric d = true) : IsNumeral (cs ++ ds) := by
  obtain ⟨c, rest, rfl, first, others⟩ := h
  exact ⟨c, rest ++ ds, rfl, first, List.forall_mem_append.mpr ⟨others, more⟩⟩

theorem take (h : IsNumeral cs) {count : Nat} (some : 0 < count) : IsNumeral (cs.take count) := by
  obtain ⟨c, rest, rfl, first, others⟩ := h
  obtain ⟨count, rfl⟩ := Nat.exists_eq_add_one.mpr some
  exact ⟨c, rest.take count, rfl, first, fun d mem => others d (List.mem_of_mem_take mem)⟩

end IsNumeral

namespace Number

theorem isNumeral_digitsText (n : Nat) : IsNumeral (digitsText n) := by
  have digits : ∀ c ∈ digitsText n, c.isDigit = true := fun c mem =>
    Nat.isDigit_of_mem_toDigits (by decide) (by decide) mem
  obtain ⟨c, rest, eq⟩ := List.exists_cons_of_ne_nil (Nat.toDigits_ne_nil (b := 10) (n := n))
  rw [digitsText, eq] at digits ⊢
  obtain ⟨first, others⟩ := List.forall_mem_cons.mp digits
  exact ⟨c, rest, rfl, first, fun d mem => by simp [isNumeric, others d mem]⟩

variable {digits : List Char}

theorem isNumeric_of_mem_zeros {count : Nat} : ∀ d ∈ List.replicate count '0', isNumeric d = true :=
  fun d mem => by rw [List.eq_of_mem_replicate mem]; rfl

theorem isNumeral_plainText (h : IsNumeral digits) (whole : Int) :
    IsNumeral (plainText digits whole) := by
  unfold plainText
  split
  · have start : IsNumeral ['0', '.'] := ⟨'0', ['.'], rfl, rfl, by simp [isNumeric]⟩
    exact (start.append isNumeric_of_mem_zeros).append h.all
  · split
    · exact (h.append isNumeric_of_mem_zeros).append (by simp [isNumeric])
    · have some : 0 < whole.natAbs := by omega
      have point : ∀ d ∈ ['.'], isNumeric d = true := by simp [isNumeric]
      exact ((h.take some).append point).append fun d mem => h.all d (List.mem_of_mem_drop mem)

theorem isNumeral_scientificText (h : IsNumeral digits) (exponent : Int) :
    IsNumeral (scientificText digits exponent) := by
  have sign : ∀ d ∈ if exponent < 0 then ['-'] else layout.positiveSign, isNumeric d = true := by
    split <;> simp [isNumeric, layout]
  have mark : ∀ d ∈ ['e'], isNumeric d = true := by simp [isNumeric]
  have finish {mantissa : List Char} (start : IsNumeral mantissa) :=
    ((start.append mark).append sign).append (isNumeral_digitsText exponent.natAbs).all
  obtain ⟨c, rest, rfl, first, others⟩ := h
  cases rest with
  | nil => exact finish ⟨c, [], rfl, first, others⟩
  | cons d rest => exact finish ⟨c, '.' :: d :: rest, rfl, first,
      List.forall_mem_cons.mpr ⟨rfl, others⟩⟩

theorem text_eq_cons (n : Number) : ∃ c rest, n.text.toList = c :: rest ∧
    (c.isDigit = true ∨ c = '-') ∧ ∀ d ∈ c :: rest, isNumeric d = true := by
  have signed {cs : List Char} (negative : Prop) [Decidable negative] (h : IsNumeral cs) :
      ∃ c rest, (if negative then '-' :: cs else cs) = c :: rest ∧
        (c.isDigit = true ∨ c = '-') ∧ ∀ d ∈ c :: rest, isNumeric d = true := by
    split
    · exact ⟨'-', cs, rfl, .inr rfl, List.forall_mem_cons.mpr ⟨rfl, h.all⟩⟩
    · obtain ⟨c, rest, rfl, first, others⟩ := id h
      exact ⟨c, rest, rfl, .inl first, h.all⟩
  cases n with
  | integer value =>
    rw [text, String.toList_ofList, integerText]
    exact signed _ (isNumeral_digitsText _)
  | double value =>
    rw [text, String.toList_ofList, doubleText]
    refine signed _ ?_
    split
    · exact isNumeral_plainText (isNumeral_digitsText _) _
    · exact isNumeral_scientificText (isNumeral_digitsText _) _

end Number

end Json

namespace Text

def escapeControl (n : Nat) : List Char :=
  ['\\', 'u', '0', '0'] ++ hexDigits (n / 16) ++ hexDigits (n % 16)

theorem escapeControl_append {n : Nat} {xs : List Char} (control : n < 0x20) :
    escapeControl n ++ xs =
      '\\' :: 'u' :: '0' :: '0' :: (n / 16).digitChar :: (n % 16).digitChar :: xs := by
  rw [escapeControl, hexDigits, hexDigits, Nat.toDigits_of_lt_base (by omega),
    Nat.toDigits_of_lt_base (by omega)]
  rfl

end Text

namespace Synthesis

open Text (escapeDouble escapeSingle)

def prepend (c : Char) (found : List Char × List Char) : List Char × List Char :=
  (c :: found.1, found.2)

/-- The text up to the closing quote, and what follows it. The escapes are those of JSON; any other
character that is escaped stands for itself. -/
def unquote? (quote : Char) : List Char → Option (List Char × List Char)
  | [] => none
  | c :: rest =>
    if c = quote then some ([], rest)
    else if c = '\\' then
      match rest with
      | 'u' :: a :: b :: c :: d :: rest =>
        (Json.Tree.unit? a b c d).bind fun code =>
          (unquote? quote rest).map (prepend (Char.ofNat code))
      | e :: rest => (unquote? quote rest).map (prepend ((Json.Tree.simpleEscape? e).getD e))
      | [] => none
    else (unquote? quote rest).map (prepend c)

def quoted? : List Char → Option (String × List Char)
  | [] => none
  | c :: rest =>
    if c = '"' ∨ c = '\'' then
      (unquote? c rest).map fun (found, rest) => (.ofList found, rest)
    else none

section

variable {quote c : Char} {rest : List Char}

theorem unquote?_end : unquote? quote (quote :: rest) = some ([], rest) := by
  rw [unquote?.eq_def]
  exact if_pos rfl

theorem unquote?_plain (h : c ≠ quote) (h' : c ≠ '\\') :
    unquote? quote (c :: rest) = (unquote? quote rest).map (prepend c) := by
  rw [unquote?.eq_def]
  dsimp only
  rw [if_neg h, if_neg h']

end

/-- What is written for a character is read as that character between quotes. -/
def ReadsAs (quote : Char) (written : List Char) (c : Char) : Prop :=
  ∀ rest, unquote? quote (written ++ rest) = (unquote? quote rest).map (prepend c)

theorem hexValue?_digitChar : ∀ n < 16, Json.Tree.hexValue? n.digitChar = some n := by decide

theorem unit?_of_control {n : Nat} (h : n < 0x20) :
    Json.Tree.unit? '0' '0' (n / 16).digitChar (n % 16).digitChar = some n := by
  have zero : Json.Tree.hexValue? '0' = some 0 := rfl
  have low : n % 16 < 16 := Nat.mod_lt _ (by decide)
  have high : n / 16 < 16 := by omega
  rw [Json.Tree.unit?, zero, hexValue?_digitChar _ high, hexValue?_digitChar _ low]
  change some (0 * 256 + n / 16 * 16 + n % 16) = some n
  rw [Nat.zero_mul, Nat.zero_add, Nat.div_add_mod']

theorem readsAs_escapeDouble (c : Char) : ReadsAs '"' (escapeDouble c) c := by
  intro rest
  fun_cases escapeDouble c with
  | case8 _ _ _ _ _ _ _ control =>
    change unquote? '"' (Text.escapeControl c.toNat ++ rest) = _
    rw [Text.escapeControl_append control, unquote?.eq_def]
    simp [unit?_of_control control]
  | case9 quote backslash => exact unquote?_plain quote backslash
  | _ =>
    subst c
    rfl

theorem readsAs_escapeSingle (c : Char) : ReadsAs '\'' (escapeSingle c) c := by
  intro rest
  fun_cases escapeSingle c with
  | case7 backslash quote => exact unquote?_plain quote backslash
  | _ =>
    subst c
    rfl

theorem unquote?_flatMap {quote : Char} {escape : Char → List Char}
    (single : ∀ c, ReadsAs quote (escape c) c) (cs rest : List Char) :
    unquote? quote (cs.flatMap escape ++ quote :: rest) = some (cs, rest) := by
  induction cs with
  | nil => exact unquote?_end
  | cons c cs ih =>
    rw [List.flatMap_cons, List.append_assoc, single, ih]
    rfl

theorem quoted?_flatMap {quote : Char} {escape : Char → List Char} (h : quote = '"' ∨ quote = '\'')
    (single : ∀ c, ReadsAs quote (escape c) c) (s : String) (rest : List Char) :
    quoted? ((String.ofList (quote :: s.toList.flatMap escape ++ [quote])).toList ++ rest) =
      some (s, rest) := by
  rw [String.toList_ofList, List.append_assoc, List.cons_append, quoted?, if_pos h,
    List.singleton_append, unquote?_flatMap single, Option.map_some]
  dsimp only
  rw [String.ofList_toList]

theorem head_of_quoted? {cs : List Char} {found : String × List Char}
    (h : quoted? cs = some found) : ∃ c rest, cs = c :: rest ∧ (c = '"' ∨ c = '\'') := by
  cases cs with
  | nil => cases h
  | cons c rest =>
    rw [quoted?] at h
    split at h
    · next quote => exact ⟨c, rest, rfl, quote⟩
    · cases h

def drop? (word : String) (cs : List Char) : Option (List Char) :=
  word.toList.isPrefixOf? cs

section

variable {α β : Type}

/-- The items of a block, one by one until it is closed. -/
def items? (read : List Char → Option (α × List Char)) (closing : String) :
    Nat → List Char → Option (List α × List Char)
  | 0, _ => none
  | steps + 1, cs =>
    match drop? closing cs with
    | some rest => some ([], rest)
    | none =>
      (read cs).bind fun (item, rest) =>
        (drop? ",\n" rest).bind fun rest =>
          (items? read closing steps rest).map fun (items, rest) => (item :: items, rest)

def block? (read : List Char → Option (α × List Char)) (opening closing : String) (steps : Nat)
    (cs : List Char) : Option (List α × List Char) :=
  (drop? opening cs).bind fun rest => items? read closing steps (rest.dropWhile (· = '\n'))

def member? (read : List Char → Option (α × List Char)) (cs : List Char) :
    Option ((String × α) × List Char) :=
  (quoted? cs).bind fun (name, rest) =>
    (drop? ": " rest).bind fun rest =>
      (read rest).map fun (value, rest) => ((name, value), rest)

def IsClosing (text : String) : Prop :=
  ∃ c rest, text.toList = c :: rest ∧ (c = ']' ∨ c = '\x7d')

/-- The text of an item is told from the end of its block by its first character. -/
def IsItem (text : String) : Prop :=
  ∃ c rest, text.toList = c :: rest ∧ c ∉ [']', '\x7d', '\n']

theorem drop?_append {word : String} {rest : List Char} :
    drop? word (word.toList ++ rest) = some rest := by
  simp [drop?]

theorem drop?_closing_of_item {closing item : String} {rest : List Char} (close : IsClosing closing)
    (begins : IsItem item) : drop? closing (item.toList ++ rest) = none := by
  obtain ⟨c, cs, eq, bracket⟩ := close
  obtain ⟨d, ds, eq', other⟩ := begins
  have apart : c ≠ d := by
    rintro rfl
    rcases bracket with rfl | rfl <;> simp at other
  rw [drop?, eq, eq', List.cons_append, List.isPrefixOf?]
  simp [apart]

theorem dropWhile_newline {text : String} {rest : List Char}
    (h : ∃ c cs, text.toList = c :: cs ∧ c ≠ '\n') :
    (text.toList ++ rest).dropWhile (· = '\n') = text.toList ++ rest := by
  obtain ⟨c, cs, eq, other⟩ := h
  rw [eq, List.cons_append, List.dropWhile_cons_of_neg (by simpa using other)]

theorem IsClosing.ne_newline {closing : String} (close : IsClosing closing) :
    ∃ c cs, closing.toList = c :: cs ∧ c ≠ '\n' := by
  obtain ⟨c, cs, eq, bracket⟩ := close
  exact ⟨c, cs, eq, by rcases bracket with rfl | rfl <;> decide⟩

theorem IsItem.ne_newline {item : String} (begins : IsItem item) :
    ∃ c cs, item.toList = c :: cs ∧ c ≠ '\n' := by
  obtain ⟨c, cs, eq, other⟩ := begins
  exact ⟨c, cs, eq, fun same => other (by simp [same])⟩

def blockRest (items : List String) (closing : String) : String :=
  String.join (items.map (· ++ ",\n")) ++ closing

theorem blockRest_nil {closing : String} : blockRest [] closing = closing := by
  simp [blockRest, String.join]

theorem blockRest_cons {item : String} {items : List String} {closing : String} :
    blockRest (item :: items) closing = item ++ (",\n" ++ blockRest items closing) := by
  simp [blockRest, String.join_cons, String.append_assoc]

theorem block_nil {opening closing : String} : block opening [] closing = opening ++ closing := rfl

theorem block_cons {opening item : String} {items : List String} {closing : String} :
    block opening (item :: items) closing =
      opening ++ ("\n" ++ blockRest (item :: items) closing) := by
  simp [block, blockRest, String.append_assoc]

variable {read : List Char → Option (α × List Char)} {closing : String} {text : β → String}
  {f : β → α} {items : List β} {steps : Nat}

theorem items?_blockRest (close : IsClosing closing) (begins : ∀ item ∈ items, IsItem (text item))
    (reads : ∀ item ∈ items, ∀ rest,
      read ((text item).toList ++ ',' :: rest) = some (f item, ',' :: rest))
    (enough : items.length < steps) (rest : List Char) :
    items? read closing steps ((blockRest (items.map text) closing).toList ++ rest) =
      some (items.map f, rest) := by
  induction items generalizing steps with
  | nil =>
    obtain ⟨steps, rfl⟩ := Nat.exists_eq_add_one.mpr enough
    rw [List.map_nil, blockRest_nil, items?, drop?_append]
    rfl
  | cons item items ih =>
    obtain ⟨steps, rfl⟩ := Nat.exists_eq_add_one.mpr (Nat.zero_lt_of_lt enough)
    obtain ⟨first, others⟩ := List.forall_mem_cons.mp begins
    obtain ⟨here, there⟩ := List.forall_mem_cons.mp reads
    have comma (rest : List Char) : read ((text item).toList ++ (",\n".toList ++ rest)) =
        some (f item, ",\n".toList ++ rest) := here _
    rw [List.map_cons, blockRest_cons, String.toList_append, List.append_assoc, items?,
      drop?_closing_of_item close first]
    dsimp only
    rw [String.toList_append, List.append_assoc, comma, Option.bind_some, drop?_append,
      Option.bind_some, ih others there (Nat.lt_of_succ_lt_succ enough)]
    rfl

theorem block?_block {opening : String} (close : IsClosing closing)
    (begins : ∀ item ∈ items, IsItem (text item))
    (reads : ∀ item ∈ items, ∀ rest,
      read ((text item).toList ++ ',' :: rest) = some (f item, ',' :: rest))
    (enough : items.length < steps) (rest : List Char) :
    block? read opening closing steps
      ((block opening (items.map text) closing).toList ++ rest) = some (items.map f, rest) := by
  have body := items?_blockRest close begins reads enough rest
  rw [block?]
  cases items with
  | nil =>
    rw [List.map_nil, blockRest_nil] at body
    rw [List.map_nil, block_nil, String.toList_append, List.append_assoc, drop?_append,
      Option.bind_some, dropWhile_newline close.ne_newline, body]
  | cons item items =>
    obtain ⟨c, cs, eq, other⟩ := (begins item List.mem_cons_self).ne_newline
    have start : ∃ c cs, (blockRest ((item :: items).map text) closing).toList = c :: cs ∧
        c ≠ '\n' := by
      rw [List.map_cons, blockRest_cons, String.toList_append, eq, List.cons_append]
      exact ⟨c, _, rfl, other⟩
    have skipped : List.dropWhile (· = '\n') ("\n".toList ++
        ((blockRest ((item :: items).map text) closing).toList ++ rest)) =
          (blockRest ((item :: items).map text) closing).toList ++ rest :=
      dropWhile_newline start
    rw [List.map_cons, block_cons, ← List.map_cons, String.toList_append, List.append_assoc,
      drop?_append, Option.bind_some, String.toList_append, List.append_assoc, skipped, body]

theorem length_blockRest_cons {item : String} {items : List String} :
    (blockRest (item :: items) closing).length =
      item.length + 2 + (blockRest items closing).length := by
  have comma : ",\n".length = 2 := rfl
  rw [blockRest_cons, String.length_append, String.length_append, comma, Nat.add_assoc]

theorem length_le_block {opening item : String} {items : List String} (mem : item ∈ items) :
    item.length + 2 ≤ (block opening items closing).length := by
  have line : item.length + 2 ≤ (blockRest items closing).length := by
    induction items with
    | nil => cases mem
    | cons first items ih =>
      rw [length_blockRest_cons]
      rcases List.mem_cons.mp mem with rfl | mem
      · omega
      · have := ih mem
        omega
  cases items with
  | nil => cases mem
  | cons first items =>
    rw [block_cons, String.length_append, String.length_append]
    omega

theorem two_mul_length_le_block {opening : String} {items : List String} :
    opening.length + 2 * items.length + closing.length ≤ (block opening items closing).length := by
  have lines : 2 * items.length + closing.length ≤ (blockRest items closing).length := by
    induction items with
    | nil => simp [blockRest_nil]
    | cons first items ih =>
      rw [length_blockRest_cons, List.length_cons]
      omega
  cases items with
  | nil => simp [block_nil]
  | cons first items =>
    rw [block_cons, String.length_append, String.length_append]
    omega

end

def numberPart (cs : List Char) : String × List Char :=
  (.ofList (cs.takeWhile Json.isNumeric), cs.dropWhile Json.isNumeric)

/-- Reads a value as a language writes it, by its first character. Every step goes one bracket
deeper, so the length of a text bounds the steps. -/
def read? (style : JsonStyle) : Nat → List Char → Option (Json.Datum × List Char)
  | 0, _ | _, [] => none
  | steps + 1, c :: cs =>
    if c = 'n' then (drop? style.null (c :: cs)).map fun rest => (.null, rest)
    else if c = 't' then (drop? "true" (c :: cs)).map fun rest => (.bool true, rest)
    else if c = 'f' then (drop? "false" (c :: cs)).map fun rest => (.bool false, rest)
    else if c = '"' ∨ c = '\'' then
      (quoted? (c :: cs)).map fun (text, rest) => (.string text, rest)
    else if c.isDigit ∨ c = '-' then
      let (text, rest) := numberPart (c :: cs)
      some (.number text, rest)
    else if c = '[' then
      (block? (read? style steps) style.arrayOpen style.arrayClose steps (c :: cs)).map
        fun (items, rest) => (.array items, rest)
    else
      (block? (member? (read? style steps)) style.objectOpen style.objectClose steps
        (c :: cs)).map fun (members, rest) => (.object members, rest)

def readJson? (style : JsonStyle) (text : String) : Option Json.Datum :=
  match read? style (text.length + 1) text.toList with
  | some (datum, []) => some datum
  | _ => none

/-- The kinds of values are told apart by their first characters, and quoted texts can be read. -/
structure JsonStyle.Readable (style : JsonStyle) : Prop where
  null : ∃ cs, style.null.toList = 'n' :: cs
  arrayOpen : ∃ cs, style.arrayOpen.toList = '[' :: cs
  objectOpen : ∃ c cs, style.objectOpen.toList = c :: cs ∧ (c = '\x7b' ∨ c = 'm')
  arrayClose : IsClosing style.arrayClose
  objectClose : IsClosing style.objectClose
  quote : ∀ s rest, quoted? ((style.quote s).toList ++ rest) = some (s, rest)

section

variable {style : JsonStyle} {steps : Nat} {cs tail : List Char}

theorem block_eq (opening : String) (items : List String) (closing : String) :
    block opening items closing = opening ++ block "" items closing := by
  cases items <;> simp [block, String.append_assoc]

theorem renderJsonItems_eq {items : List Value} :
    renderJsonItems style items = items.map (renderJson style) := by
  induction items with
  | nil => rfl
  | cons item rest ih => rw [renderJsonItems, List.map_cons, ih]

theorem renderJsonMembers_eq {members : List (String × Value)} :
    renderJsonMembers style members = members.map fun member =>
      (member.1, renderJson style member.2) := by
  induction members with
  | nil => rfl
  | cons member rest ih => rw [renderJsonMembers, List.map_cons, ih]

def memberText (style : JsonStyle) (member : String × Value) : String :=
  style.quote member.1 ++ (": " ++ renderJson style member.2)

theorem renderJson_array {items : List Value} : renderJson style (.array items) =
    block style.arrayOpen (items.map (renderJson style)) style.arrayClose := by
  rw [renderJson, renderJsonItems_eq]

theorem renderJson_object {members : List (String × Value)} : renderJson style (.object members) =
    block style.objectOpen ((byName members).map (memberText style)) style.objectClose := by
  rw [renderJson, renderJsonMembers_eq,
    byName_map fun member : String × Value => renderJson style member.2, List.map_map]
  congr 2
  funext member
  exact String.append_assoc

theorem isItem_quote (readable : style.Readable) (s : String) : IsItem (style.quote s) := by
  obtain ⟨c, cs, eq, quote⟩ := head_of_quoted? (readable.quote s [])
  rw [List.append_nil] at eq
  exact ⟨c, cs, eq, by rcases quote with rfl | rfl <;> decide⟩

theorem isItem_of_append {opening more : String} (h : IsItem opening) : IsItem (opening ++ more) := by
  obtain ⟨c, cs, eq, other⟩ := h
  exact ⟨c, cs ++ more.toList, by rw [String.toList_append, eq, List.cons_append], other⟩

theorem isItem_memberText (readable : style.Readable) (member : String × Value) :
    IsItem (memberText style member) :=
  isItem_of_append (isItem_quote readable member.1)

theorem isItem_renderJson (readable : style.Readable) (v : Value) : IsItem (renderJson style v) := by
  cases v with
  | null =>
    obtain ⟨cs, eq⟩ := readable.null
    exact ⟨'n', cs, eq, by decide⟩
  | bool b =>
    rw [renderJson]
    cases b with
    | false => exact ⟨'f', "alse".toList, rfl, by decide⟩
    | true => exact ⟨'t', "rue".toList, rfl, by decide⟩
  | number n =>
    obtain ⟨c, cs, eq, first, -⟩ := n.text_eq_cons
    refine ⟨c, cs, eq, fun mem => ?_⟩
    simp at mem
    rcases mem with rfl | rfl | rfl <;> simp at first
  | string s =>
    rw [renderJson]
    exact isItem_quote readable s
  | array items =>
    obtain ⟨cs, eq⟩ := readable.arrayOpen
    rw [renderJson_array, block_eq]
    exact isItem_of_append ⟨'[', cs, eq, by decide⟩
  | object members =>
    obtain ⟨c, cs, eq, first⟩ := readable.objectOpen
    rw [renderJson_object, block_eq]
    exact isItem_of_append ⟨c, cs, eq, by rcases first with rfl | rfl <;> decide⟩

theorem read?_null (h : cs = 'n' :: tail) : read? style (steps + 1) cs =
    (drop? style.null cs).map fun rest => (.null, rest) := by
  subst h
  rfl

theorem read?_bool (b : Bool) (rest : List Char) :
    read? style (steps + 1) ((Value.boolText b).toList ++ rest) = some (.bool b, rest) := by
  cases b
  · change (drop? "false" ("false".toList ++ rest)).map _ = _
    rw [drop?_append]
    rfl
  · change (drop? "true" ("true".toList ++ rest)).map _ = _
    rw [drop?_append]
    rfl

theorem read?_quoted {c : Char} (h : cs = c :: tail) (quote : c = '"' ∨ c = '\'') :
    read? style (steps + 1) cs = (quoted? cs).map fun (text, rest) => (.string text, rest) := by
  subst h
  rcases quote with rfl | rfl <;> rfl

theorem read?_number {c : Char} (h : cs = c :: tail) (first : c.isDigit = true ∨ c = '-') :
    read? style (steps + 1) cs =
      some (.number (.ofList (cs.takeWhile Json.isNumeric)), cs.dropWhile Json.isNumeric) := by
  have apart {d : Char} (other : ¬ (d.isDigit = true ∨ d = '-')) : c ≠ d := by
    rintro rfl
    exact other first
  have unquoted : ¬ (c = '"' ∨ c = '\'') :=
    not_or.mpr ⟨apart (by decide), apart (by decide)⟩
  subst h
  rw [read?, if_neg (apart (by decide)), if_neg (apart (by decide)), if_neg (apart (by decide)),
    if_neg unquoted, if_pos first]
  rfl

theorem read?_bracket (h : cs = '[' :: tail) : read? style (steps + 1) cs =
    (block? (read? style steps) style.arrayOpen style.arrayClose steps cs).map
      fun (items, rest) => (.array items, rest) := by
  subst h
  rfl

theorem read?_brace {c : Char} (h : cs = c :: tail) (first : c = '\x7b' ∨ c = 'm') :
    read? style (steps + 1) cs =
      (block? (member? (read? style steps)) style.objectOpen style.objectClose steps cs).map
        fun (members, rest) => (.object members, rest) := by
  subst h
  rcases first with rfl | rfl <;> rfl

theorem length_pos_of_cons {text : String} {c : Char} (h : text.toList = c :: cs) :
    0 < text.length := by
  rw [← String.length_toList, h]
  exact Nat.succ_pos _

theorem bounds_of_block {opening closing : String} {items : List String}
    (opens : 0 < opening.length) (close : IsClosing closing)
    (enough : (block opening items closing).length ≤ steps) :
    items.length < steps ∧ ∀ item ∈ items, ∃ below, steps = below + 1 ∧ item.length ≤ below := by
  obtain ⟨_, _, eq, -⟩ := close
  have closes := length_pos_of_cons eq
  have lines := Nat.le_trans two_mul_length_le_block enough
  refine ⟨by omega, fun item mem => ⟨steps - 1, by omega, ?_⟩⟩
  have line := Nat.le_trans (length_le_block mem) enough
  omega

theorem read?_number_text {rest : List Char} (n : Json.Number)
    (stop : ∀ c ∈ rest.head?, Json.isNumeric c = false) :
    read? style (steps + 1) (n.text.toList ++ rest) = some (.number n.text, rest) := by
  obtain ⟨c, cs, eq, first, numeric⟩ := n.text_eq_cons
  rw [← eq] at numeric
  have none : rest.takeWhile Json.isNumeric = [] ∧ rest.dropWhile Json.isNumeric = rest := by
    cases rest with
    | nil => exact ⟨rfl, rfl⟩
    | cons d rest => simp [stop d rfl]
  rw [read?_number (by rw [eq, List.cons_append]) first, List.takeWhile_append_of_pos numeric,
    List.dropWhile_append_of_pos numeric, none.1, none.2, List.append_nil, String.ofList_toList]

theorem read?_renderJson_array (readable : style.Readable) {items : List Value}
    (enough : (renderJson style (.array items)).length ≤ steps)
    (reads : ∀ item ∈ items, ∀ below, steps = below + 1 → (renderJson style item).length ≤ below →
      ∀ rest, read? style steps ((renderJson style item).toList ++ ',' :: rest) =
        some (item.datum, ',' :: rest)) (rest : List Char) :
    read? style (steps + 1) ((renderJson style (.array items)).toList ++ rest) =
      some ((Value.array items).datum, rest) := by
  obtain ⟨cs, eq⟩ := readable.arrayOpen
  have start : (renderJson style (.array items)).toList ++ rest = '[' :: (cs ++
      (block "" (items.map (renderJson style)) style.arrayClose).toList ++ rest) := by
    rw [renderJson_array, block_eq, String.toList_append, eq]
    rfl
  rw [renderJson_array] at enough
  obtain ⟨few, short⟩ := bounds_of_block (length_pos_of_cons eq) readable.arrayClose enough
  rw [List.length_map] at few
  have here : ∀ item ∈ items, ∀ rest, read? style steps
      ((renderJson style item).toList ++ ',' :: rest) = some (item.datum, ',' :: rest) := by
    intro item mem
    obtain ⟨below, next, fits⟩ := short _ (List.mem_map_of_mem mem)
    exact reads item mem below next fits
  rw [read?_bracket start, renderJson_array, block?_block readable.arrayClose
    (fun item _ => isItem_renderJson readable item) here few, Value.datum_array]
  rfl

theorem member?_memberText (readable : style.Readable) {member : String × Value}
    {rest : List Char} (value : read? style steps ((renderJson style member.2).toList ++ rest) =
      some (member.2.datum, rest)) :
    member? (read? style steps) ((memberText style member).toList ++ rest) =
      some ((member.1, member.2.datum), rest) := by
  rw [memberText, String.toList_append, List.append_assoc, member?, readable.quote,
    Option.bind_some]
  dsimp only
  rw [String.toList_append, List.append_assoc, drop?_append, Option.bind_some, value]
  rfl

theorem read?_renderJson_object (readable : style.Readable) {members : List (String × Value)}
    (enough : (renderJson style (.object members)).length ≤ steps)
    (reads : ∀ member ∈ members, ∀ below, steps = below + 1 →
      (renderJson style member.2).length ≤ below →
      ∀ rest, read? style steps ((renderJson style member.2).toList ++ ',' :: rest) =
        some (member.2.datum, ',' :: rest)) (rest : List Char) :
    read? style (steps + 1) ((renderJson style (.object members)).toList ++ rest) =
      some ((Value.object members).datum, rest) := by
  obtain ⟨c, cs, eq, first⟩ := readable.objectOpen
  have start : (renderJson style (.object members)).toList ++ rest = c :: (cs ++
      (block "" ((byName members).map (memberText style)) style.objectClose).toList ++ rest) := by
    rw [renderJson_object, block_eq, String.toList_append, eq]
    rfl
  rw [renderJson_object] at enough
  obtain ⟨few, short⟩ := bounds_of_block (length_pos_of_cons eq) readable.objectClose enough
  rw [List.length_map] at few
  have here : ∀ member ∈ byName members, ∀ rest, member? (read? style steps)
      ((memberText style member).toList ++ ',' :: rest) =
        some ((member.1, member.2.datum), ',' :: rest) := by
    intro member mem rest
    obtain ⟨below, next, fits⟩ := short _ (List.mem_map_of_mem mem)
    rw [memberText, String.length_append, String.length_append] at fits
    exact member?_memberText readable
      (reads member (mem_of_mem_byName mem) below next (by omega) rest)
  rw [read?_brace start first, renderJson_object, block?_block readable.objectClose
    (fun member _ => isItem_memberText readable member) here few, Value.datum_object]
  rfl

/-- A value is read back from its text, and what follows the text is left. -/
theorem read?_renderJson (readable : style.Readable) (v : Value) :
    ∀ steps rest, (renderJson style v).length ≤ steps →
      (∀ c ∈ rest.head?, Json.isNumeric c = false) →
      read? style (steps + 1) ((renderJson style v).toList ++ rest) = some (v.datum, rest) := by
  have comma {rest : List Char} : ∀ c ∈ (',' :: rest).head?, Json.isNumeric c = false := by
    rintro c ⟨⟩
    rfl
  induction v using Json.Value.induct with
  | null =>
    intro steps rest _ _
    obtain ⟨cs, eq⟩ := readable.null
    rw [renderJson, read?_null (by rw [eq, List.cons_append]), drop?_append]
    rfl
  | bool b =>
    intro steps rest _ _
    rw [renderJson, read?_bool]
    rfl
  | number n =>
    intro steps rest _ stop
    rw [renderJson, read?_number_text n stop]
    rfl
  | string s =>
    intro steps rest _ _
    obtain ⟨c, cs, eq, quote⟩ := head_of_quoted? (readable.quote s rest)
    rw [renderJson, read?_quoted eq quote, readable.quote]
    rfl
  | array items ih =>
    intro steps rest enough _
    refine read?_renderJson_array readable enough ?_ rest
    rintro item mem below rfl fits more
    exact ih item mem below _ fits comma
  | object members ih =>
    intro steps rest enough _
    refine read?_renderJson_object readable enough ?_ rest
    rintro member mem below rfl fits more
    exact ih member mem below _ fits comma

theorem readJson?_renderJson (readable : style.Readable) (v : Value) :
    readJson? style (renderJson style v) = some v.datum := by
  have read := read?_renderJson readable v _ [] (Nat.le_refl _) (by simp)
  rw [List.append_nil] at read
  rw [readJson?, read]

mutual

def datumText (style : JsonStyle) : Json.Datum → String
  | .null => style.null
  | .bool b => Value.boolText b
  | .number text => text
  | .string s => style.quote s
  | .array items => block style.arrayOpen (datumTexts style items) style.arrayClose
  | .object members => block style.objectOpen (memberTexts style members) style.objectClose

def datumTexts (style : JsonStyle) : List Json.Datum → List String
  | [] => []
  | item :: rest => datumText style item :: datumTexts style rest

def memberTexts (style : JsonStyle) : List (String × Json.Datum) → List String
  | [] => []
  | (name, value) :: rest =>
    (style.quote name ++ (": " ++ datumText style value)) :: memberTexts style rest

end

theorem datumTexts_map {items : List Value}
    (h : ∀ item ∈ items, datumText style item.datum = renderJson style item) :
    datumTexts style (items.map Value.datum) = items.map (renderJson style) := by
  induction items with
  | nil => rfl
  | cons item items ih =>
    obtain ⟨first, others⟩ := List.forall_mem_cons.mp h
    rw [List.map_cons, datumTexts, first, ih others, List.map_cons]

theorem memberTexts_map {members : List (String × Value)}
    (h : ∀ member ∈ members, datumText style member.2.datum = renderJson style member.2) :
    memberTexts style (members.map fun member => (member.1, member.2.datum)) =
      members.map (memberText style) := by
  induction members with
  | nil => rfl
  | cons member members ih =>
    obtain ⟨first, others⟩ := List.forall_mem_cons.mp h
    rw [List.map_cons, memberTexts, first, ih others, List.map_cons, memberText]

theorem datumText_datum (v : Value) : datumText style v.datum = renderJson style v := by
  induction v using Json.Value.induct with
  | null | bool | number | string => rfl
  | array items ih =>
    rw [Value.datum_array, datumText, datumTexts_map ih, renderJson_array]
  | object members ih =>
    rw [Value.datum_object, datumText,
      memberTexts_map fun member mem => ih member (mem_of_mem_byName mem), renderJson_object]

end

end Synthesis

def Language.jsonStyle : Language → Synthesis.JsonStyle
  | .go => Synthesis.Go.jsonStyle
  | .typescript => Synthesis.TypeScript.jsonStyle
  | .dart => Synthesis.Dart.jsonStyle

theorem Language.readable_jsonStyle (language : Language) : language.jsonStyle.Readable := by
  cases language with
  | go => exact ⟨⟨_, rfl⟩, ⟨_, rfl⟩, ⟨_, _, rfl, .inr rfl⟩, ⟨_, _, rfl, .inr rfl⟩,
      ⟨_, _, rfl, .inr rfl⟩, Synthesis.quoted?_flatMap (.inl rfl) Synthesis.readsAs_escapeDouble⟩
  | typescript => exact ⟨⟨_, rfl⟩, ⟨_, rfl⟩, ⟨_, _, rfl, .inl rfl⟩, ⟨_, _, rfl, .inl rfl⟩,
      ⟨_, _, rfl, .inr rfl⟩, Synthesis.quoted?_flatMap (.inl rfl) Synthesis.readsAs_escapeDouble⟩
  | dart => exact ⟨⟨_, rfl⟩, ⟨_, rfl⟩, ⟨_, _, rfl, .inl rfl⟩, ⟨_, _, rfl, .inl rfl⟩,
      ⟨_, _, rfl, .inr rfl⟩, Synthesis.quoted?_flatMap (.inr rfl) Synthesis.readsAs_escapeSingle⟩

/-- Two values have one text in a language exactly when they are the same but for the order of members
and for numbers that print alike, and every value is read back from the literal it is rendered as. -/
theorem raw_json_unambiguous (target : Target) (v w : Value) :
    (Synthesis.renderJson target.language.jsonStyle v =
        Synthesis.renderJson target.language.jsonStyle w ↔ v.datum = w.datum) ∧
      target.renderLiteral (.json v) = Synthesis.renderJson target.language.jsonStyle v ∧
      Synthesis.readJson? target.language.jsonStyle (target.renderLiteral (.json v)) =
        some v.datum := by
  have read := Synthesis.readJson?_renderJson target.language.readable_jsonStyle
  have literal : target.renderLiteral (.json v) =
      Synthesis.renderJson target.language.jsonStyle v := by
    unfold Target.renderLiteral
    cases target.language <;> rfl
  refine ⟨⟨fun same => ?_, fun same => ?_⟩, literal, by rw [literal, read]⟩
  · have found := read v
    rw [same, read w] at found
    exact (Option.some.inj found).symm
  · rw [← Synthesis.datumText_datum v, same, Synthesis.datumText_datum]

end Typesmith

import LinkReport.Report
import LinkReport.Proofs.Json.Numerals

/-!
# A line of JSON and back

Data without floats, of any depth, is written as one line, and the reader takes all of the
line and answers with the same data. Only keys change: they all come back as strings.

* `Datum` is the data, with the integers of 64 bits and with keys that have a text;
* `Line`, `Items` and `Entries` say what is written and read of a value, and of the values
  and entries after the first, with one lemma for each way in which they are put together;
* `Datum.exists_line` goes through the data by its structure.
-/

namespace LinkReport.Json

/-! ## Data -/

/-- An integer of 64 bits. -/
inductive Integer where
  | signed (n : Int64)
  | unsigned (n : UInt64)

/-- The number. -/
def Integer.toInt : Integer → Int
  | signed n => n.toInt
  | unsigned n => n.toNat

/-- A key of a map that JSON has a text for. -/
inductive Key where
  | text (s : String)
  | boolean (b : Bool)
  | integer (n : Integer)

/-- The key as a value. -/
def Key.value : Key → Value
  | text s => .text s
  | boolean b => .boolean b
  | integer n => .integer n.toInt

/-- The string that stands for the key. -/
def Key.name : Key → String
  | text s => s
  | boolean true => "true"
  | boolean false => "false"
  | integer n => toString n.toInt

/-- Data that JSON keeps: there are no floats, and every key has a text. -/
inductive Datum where
  | null
  | boolean (b : Bool)
  | integer (n : Integer)
  | text (s : String)
  | list (items : List Datum)
  | map (entries : List (Key × Datum))

namespace Datum

mutual

/-- The data as a value, with a choice of what becomes of keys. -/
def valueWith (key : Key → Value) : Datum → Value
  | null => .null
  | boolean b => .boolean b
  | integer n => .integer n.toInt
  | text s => .text s
  | list items => .list (itemsWith key items)
  | map entries => .map (entriesWith key entries)

/-- The items of a list as values. -/
def itemsWith (key : Key → Value) : List Datum → List Value
  | [] => []
  | d :: items => d.valueWith key :: itemsWith key items

/-- The entries of a map as values. -/
def entriesWith (key : Key → Value) : List (Key × Datum) → List (Value × Value)
  | [] => []
  | (k, d) :: entries => (key k, d.valueWith key) :: entriesWith key entries

end

/-- The value that is written. -/
def value (d : Datum) : Value :=
  d.valueWith Key.value

/-- The value that is read, with each key as a string. -/
def decoded (d : Datum) : Value :=
  d.valueWith fun k => .text k.name

end Datum

/-! ## Keys -/

theorem Integer.fits (n : Integer) : Fits n.toInt := by
  unfold Fits
  cases n with
  | signed n =>
    have hlow := n.le_toInt
    have hhigh := n.toInt_lt
    show _ ≤ n.toInt ∧ n.toInt < _
    omega
  | unsigned n =>
    have hhigh := n.toNat_lt
    show _ ≤ (n.toNat : Int) ∧ (n.toNat : Int) < _
    omega

theorem writeInteger_eq_toString (n : Int) : writeInteger n = (toString n).toList := by
  rw [Int.toString_eq_repr, Int.repr_eq_if]
  rw [Nat.repr_eq_ofList_toDigits, Nat.repr_eq_ofList_toDigits]
  unfold writeInteger
  by_cases hnegative : n < 0
  · have habs : (-n).toNat = n.natAbs := by omega
    rw [if_pos hnegative, if_neg (by omega), habs, String.toList_append,
      @String.toList_ofList (Nat.toDigits 10 n.natAbs)]
    rfl
  · have habs : n.toNat = n.natAbs := by omega
    rw [if_neg hnegative, if_pos (by omega), habs, String.toList_ofList]
    rfl

/-- A key is written as the string that stands for it. -/
theorem Key.keyText_value (k : Key) : k.value.keyText = .ok k.name.toList := by
  cases k with
  | text s => rfl
  | boolean b => cases b <;> rfl
  | integer n => exact congrArg Except.ok (writeInteger_eq_toString n.toInt)

/-! ## Lines -/

/-- A text that is written for one value is read as another, wherever it stands. -/
structure Line (v : Value) (cs : List Char) (w : Value) : Prop where
  write : v.write = .ok cs
  isPrintable : IsPrintable cs
  read : ∀ rest fuel, EndsNumeral rest → cs.length ≤ fuel →
    readValue fuel (cs ++ rest) = some (w, rest)

/-- The same for the values of a list after the first, each after a comma. -/
structure Items (vs : List Value) (cs : List Char) (ws : List Value) : Prop where
  write : Value.writeItems vs = .ok cs
  isPrintable : IsPrintable cs
  head?_eq : ∀ c ∈ cs.head?, c = ','
  read : ∀ rest fuel, cs.length < fuel → readItems fuel (cs ++ ']' :: rest) = some (ws, rest)

/-- The same for the entries of a map after the first. -/
structure Entries (vs : List (Value × Value)) (cs : List Char) (ws : List (Value × Value)) :
    Prop where
  write : Value.writeEntries vs = .ok cs
  isPrintable : IsPrintable cs
  head?_eq : ∀ c ∈ cs.head?, c = ','
  read : ∀ rest fuel, cs.length < fuel →
    readEntries fuel (cs ++ '\x7d' :: rest) = some (ws, rest)

/-- No numeral goes on with a comma or with a bracket. -/
theorem endsNumeral_append {cs rest : List Char} {close : Char} (hcs : ∀ c ∈ cs.head?, c = ',')
    (hclose : isNumeralChar close = false) : EndsNumeral (cs ++ close :: rest) := by
  intro c hc
  cases cs with
  | nil =>
    have hc : close = c := Option.some.inj hc
    rw [← hc]
    exact hclose
  | cons d cs =>
    have hc : d = c := Option.some.inj hc
    rw [← hc, hcs d rfl]
    rfl

/-! ## Scalars -/

namespace Line

/-- A text of one token is read with any fuel. -/
theorem of_token {v w : Value} {cs : List Char} (hwrite : v.write = .ok cs)
    (hprintable : IsPrintable cs) (hne : cs ≠ [])
    (hread : ∀ rest fuel, EndsNumeral rest → readValue (fuel + 1) (cs ++ rest) = some (w, rest)) :
    Line v cs w := by
  refine ⟨hwrite, hprintable, ?_⟩
  intro rest fuel hrest hfuel
  have hlength := List.length_pos_iff.2 hne
  obtain ⟨fuel, rfl⟩ : ∃ n, fuel = n + 1 := ⟨fuel - 1, by omega⟩
  exact hread rest fuel hrest

theorem null : Line .null "null".toList .null :=
  of_token rfl (isPrintable_of_all rfl) (by decide) fun _ _ _ => rfl

theorem boolean (b : Bool) : Line (.boolean b) (writeBoolean b) (.boolean b) := by
  cases b with
  | false => exact of_token rfl (isPrintable_of_all rfl) (by decide) fun _ _ _ => rfl
  | true => exact of_token rfl (isPrintable_of_all rfl) (by decide) fun _ _ _ => rfl

theorem text (s : String) : Line (.text s) (writeString s.toList) (.text s) := by
  have hne : writeString s.toList ≠ [] := List.cons_ne_nil _ _
  refine of_token rfl (isPrintable_writeString _) hne ?_
  intro rest fuel _
  rw [writeString_append]
  show (readString (s.toList.flatMap escapeChar ++ '"' :: rest)).map _ = _
  rw [readString_writeString]
  rfl

/-- What is written as a numeral is read as the number that the numeral spells. -/
theorem numeral {v w : Value} {cs : List Char} (hwrite : v.write = .ok cs)
    (h : Grammar.Numeral cs w) : Line v cs w := by
  obtain ⟨c, more, hcs, -⟩ := exists_eq_cons_of_numeral h
  refine of_token hwrite (isPrintable_of_numeral h) (hcs ▸ List.cons_ne_nil c more) ?_
  intro rest fuel hrest
  exact (readValue_numeral h rest fuel).trans (readNumber_of_numeral h hrest)

theorem integer {n : Int} (h : Fits n) : Line (.integer n) (writeInteger n) (.integer n) :=
  numeral rfl ((wholeNumber_natAbs n).1 h ▸ numeral_writeInteger n)

theorem emptyList : Line (.list []) ['[', ']'] (.list []) :=
  of_token rfl (isPrintable_of_all rfl) (by decide) fun _ _ _ => rfl

theorem emptyMap : Line (.map []) ['\x7b', '\x7d'] (.map []) :=
  of_token rfl (isPrintable_of_all rfl) (by decide) fun _ _ _ => rfl

end Line

/-! ## Lists -/

theorem Items.nil : Items [] [] [] := by
  refine ⟨rfl, fun _ h => absurd h List.not_mem_nil, fun _ h => (nomatch h), ?_⟩
  intro rest fuel hfuel
  obtain ⟨fuel, rfl⟩ : ∃ n, fuel = n + 1 := ⟨fuel - 1, by omega⟩
  rfl

/-- A value is read up to the comma or bracket after it, and then the values after it. -/
theorem Line.read_items {v w : Value} {vs ws : List Value} {cs ds : List Char}
    (h : Line v cs w) (hs : Items vs ds ws) (rest : List Char) (fuel : Nat)
    (hfuel : cs.length + ds.length < fuel) :
    ∃ after, readValue fuel (cs ++ ds ++ ']' :: rest) = some (w, after) ∧
      readItems fuel after = some (ws, rest) := by
  have hends : EndsNumeral (ds ++ ']' :: rest) := endsNumeral_append hs.head?_eq rfl
  have hfirst := h.read (ds ++ ']' :: rest) fuel hends (by omega)
  have hrest := hs.read rest fuel (by omega)
  rw [List.append_assoc]
  exact ⟨ds ++ ']' :: rest, hfirst, hrest⟩

theorem Items.cons {v w : Value} {vs ws : List Value} {cs ds : List Char} (h : Line v cs w)
    (hs : Items vs ds ws) : Items (v :: vs) (',' :: (cs ++ ds)) (w :: ws) := by
  refine ⟨?_, (h.isPrintable.append hs.isPrintable).cons (by decide), ?_, ?_⟩
  · rw [Value.writeItems, h.write, hs.write]
    rfl
  · intro c hc
    exact (Option.some.inj hc).symm
  · intro rest fuel hfuel
    rw [List.length_cons, List.length_append] at hfuel
    obtain ⟨fuel, rfl⟩ : ∃ n, fuel = n + 1 := ⟨fuel - 1, by omega⟩
    obtain ⟨after, hfirst, hrest⟩ := h.read_items hs rest fuel (by omega)
    exact readItems_comma hfirst hrest

theorem Line.list {v w : Value} {vs ws : List Value} {cs ds : List Char} (h : Line v cs w)
    (hs : Items vs ds ws) :
    Line (.list (v :: vs)) ('[' :: (cs ++ ds) ++ [']']) (.list (w :: ws)) := by
  have hprintable := (h.isPrintable.append hs.isPrintable).cons (c := '[') (by decide)
  refine ⟨?_, hprintable.append (isPrintable_of_all rfl), ?_⟩
  · rw [Value.write, h.write, hs.write]
    rfl
  · intro rest fuel _ hfuel
    simp only [List.length_append, List.length_cons] at hfuel
    obtain ⟨fuel, rfl⟩ : ∃ n, fuel = n + 1 := ⟨fuel - 1, by omega⟩
    obtain ⟨after, hfirst, hrest⟩ := h.read_items hs rest fuel (by omega)
    rw [List.append_assoc]
    exact readValue_bracket hfirst hrest

/-! ## Maps -/

theorem Entries.nil : Entries [] [] [] := by
  refine ⟨rfl, fun _ h => absurd h List.not_mem_nil, fun _ h => (nomatch h), ?_⟩
  intro rest fuel hfuel
  obtain ⟨fuel, rfl⟩ : ∃ n, fuel = n + 1 := ⟨fuel - 1, by omega⟩
  rfl

/-- The text of an entry. -/
def entryText (key : String) (cs : List Char) : List Char :=
  writeString key.toList ++ ':' :: cs

theorem length_entryText (key : String) (cs : List Char) :
    cs.length < (entryText key cs).length := by
  unfold entryText
  rw [List.length_append, List.length_cons]
  omega

/-- An entry is read up to the comma or brace after it, and then the entries after it. -/
theorem Line.read_entries {v w : Value} {vs ws : List (Value × Value)} {cs ds : List Char}
    (h : Line v cs w) (hs : Entries vs ds ws) (key : String) (rest : List Char) (fuel : Nat)
    (hfuel : (entryText key cs).length + ds.length < fuel) :
    ∃ after, readEntry fuel (entryText key cs ++ ds ++ '\x7d' :: rest) =
        some ((.text key, w), after) ∧ readEntries fuel after = some (ws, rest) := by
  have hlength := length_entryText key cs
  have hends : EndsNumeral (ds ++ '\x7d' :: rest) := endsNumeral_append hs.head?_eq rfl
  have hrest := hs.read rest fuel (by omega)
  obtain ⟨fuel, rfl⟩ : ∃ n, fuel = n + 1 := ⟨fuel - 1, by omega⟩
  refine ⟨ds ++ '\x7d' :: rest, ?_, hrest⟩
  rw [List.append_assoc, entryText, List.append_assoc, writeString_append]
  show (readString (key.toList.flatMap escapeChar ++ '"' :: ':' :: (cs ++ _))).bind _ = _
  rw [readString_writeString]
  show (readValue fuel (cs ++ _)).bind _ = _
  rw [h.read _ fuel hends (by omega)]
  rfl

theorem isPrintable_entryText (key : String) {cs : List Char} (h : IsPrintable cs) :
    IsPrintable (entryText key cs) :=
  (isPrintable_writeString key.toList).append (h.cons (by decide))

theorem Entries.cons {k v w : Value} {name : String} {vs ws : List (Value × Value)}
    {cs ds : List Char} (hkey : k.keyText = .ok name.toList) (h : Line v cs w)
    (hs : Entries vs ds ws) :
    Entries ((k, v) :: vs) (',' :: (entryText name cs ++ ds)) ((.text name, w) :: ws) := by
  have hentry := isPrintable_entryText name h.isPrintable
  refine ⟨?_, (hentry.append hs.isPrintable).cons (by decide), ?_, ?_⟩
  · rw [Value.writeEntries, hkey, h.write, hs.write]
    rfl
  · intro c hc
    exact (Option.some.inj hc).symm
  · intro rest fuel hfuel
    rw [List.length_cons, List.length_append] at hfuel
    obtain ⟨fuel, rfl⟩ : ∃ n, fuel = n + 1 := ⟨fuel - 1, by omega⟩
    obtain ⟨after, hfirst, hrest⟩ := h.read_entries hs name rest fuel (by omega)
    exact readEntries_comma hfirst hrest

theorem Line.map {k v w : Value} {name : String} {vs ws : List (Value × Value)}
    {cs ds : List Char} (hkey : k.keyText = .ok name.toList) (h : Line v cs w)
    (hs : Entries vs ds ws) :
    Line (.map ((k, v) :: vs)) ('\x7b' :: (entryText name cs ++ ds) ++ ['\x7d'])
      (.map ((.text name, w) :: ws)) := by
  have hentry := isPrintable_entryText name h.isPrintable
  have hprintable := (hentry.append hs.isPrintable).cons (c := '\x7b') (by decide)
  refine ⟨?_, hprintable.append (isPrintable_of_all rfl), ?_⟩
  · rw [Value.write, hkey, h.write, hs.write]
    simp [bind, Except.bind, entryText]
  · intro rest fuel _ hfuel
    simp only [List.length_append, List.length_cons] at hfuel
    obtain ⟨fuel, rfl⟩ : ∃ n, fuel = n + 1 := ⟨fuel - 1, by omega⟩
    obtain ⟨after, hfirst, hrest⟩ := h.read_entries hs name rest fuel (by omega)
    rw [List.append_assoc]
    exact readValue_brace hfirst hrest

/-! ## All data -/

namespace Datum

mutual

/-- By the structure of the data: one of the lemmas above for each way to build it. -/
theorem exists_line : (d : Datum) → ∃ cs, Line d.value cs d.decoded
  | null => ⟨_, .null⟩
  | boolean b => ⟨_, .boolean b⟩
  | integer n => ⟨_, .integer n.fits⟩
  | text s => ⟨_, .text s⟩
  | list [] => ⟨_, .emptyList⟩
  | list (d :: items) =>
    have ⟨_, h⟩ := exists_line d
    have ⟨_, hs⟩ := exists_items items
    ⟨_, h.list hs⟩
  | map [] => ⟨_, .emptyMap⟩
  | map ((k, d) :: entries) =>
    have ⟨_, h⟩ := exists_line d
    have ⟨_, hs⟩ := exists_entries entries
    ⟨_, .map k.keyText_value h hs⟩

theorem exists_items : (items : List Datum) → ∃ cs,
    Items (itemsWith Key.value items) cs (itemsWith (fun k => .text k.name) items)
  | [] => ⟨_, .nil⟩
  | d :: items =>
    have ⟨_, h⟩ := exists_line d
    have ⟨_, hs⟩ := exists_items items
    ⟨_, .cons h hs⟩

theorem exists_entries : (entries : List (Key × Datum)) → ∃ cs,
    Entries (entriesWith Key.value entries) cs (entriesWith (fun k => .text k.name) entries)
  | [] => ⟨_, .nil⟩
  | (k, d) :: entries =>
    have ⟨_, h⟩ := exists_line d
    have ⟨_, hs⟩ := exists_entries entries
    ⟨_, .cons k.keyText_value h hs⟩

end

end Datum

/-- A whole line is read as a value. -/
theorem Line.read? {v w : Value} {cs : List Char} (h : Line v cs w) :
    v.toLine = .ok (String.ofList cs) ∧ (∀ c ∈ (String.ofList cs).toList, 0x20 ≤ c.toNat) ∧
      Value.read? (String.ofList cs) = some w := by
  refine ⟨?_, ?_, ?_⟩
  · unfold Value.toLine
    rw [h.write]
    rfl
  · rw [String.toList_ofList]
    exact h.isPrintable
  · have hread := h.read [] (cs.length + 2) (fun _ hc => nomatch hc) (by omega)
    rw [List.append_nil] at hread
    unfold Value.read?
    rw [String.toList_ofList]
    show (readValue (cs.length + 2) cs).bind _ = _
    rw [hread]
    rfl

/-- A line of JSON holds all of the data it is written from. It has no control character, and
a reader that takes JSON only gives the data back in order, with repeated keys and with each
key as its string. So a report says the same as a line of JSON and as two lines of text. -/
theorem toLine_roundTrip :
    (∀ text v, Value.read? text = some v → Grammar.IsText text.toList v) ∧
      (∀ d : Datum, ∃ line, d.value.toLine = .ok line ∧ (∀ c ∈ line.toList, 0x20 ≤ c.toNat) ∧
        Value.read? line = some d.decoded) ∧
      ∀ r : Report, r.toValue.toLine = .ok r.toLine ∧ (∀ c ∈ r.toLine.toList, 0x20 ≤ c.toNat) ∧
        Value.read? r.toLine = some (.map
          [(.text "string", .text r.string), (.text "json_c_version", .text r.jsonVersion)]) ∧
        r.lines =
          ["C++ example linking " ++ r.string, "Linking json-c version " ++ r.jsonVersion] := by
  refine ⟨fun _ _ h => Grammar.isText_of_read? h, ?_, ?_⟩
  · intro d
    obtain ⟨cs, h⟩ := d.exists_line
    exact ⟨String.ofList cs, h.read?⟩
  · intro r
    let d : Datum := .map
      [(.text "string", .text r.string), (.text "json_c_version", .text r.jsonVersion)]
    obtain ⟨cs, h⟩ := d.exists_line
    obtain ⟨hwrite, hprintable, hread⟩ := h.read?
    have hline : String.ofList cs = r.toLine :=
      Except.ok.inj (hwrite.symm.trans r.toLine_toValue)
    rw [hline] at hprintable hread
    exact ⟨r.toLine_toValue, hprintable, hread, rfl⟩

/-- Keys of three kinds, one of them twice, and a string with escapes. -/
example :
    (Datum.map [(.boolean true, .list [.null, .integer (.signed (-7))]),
      (.integer (.unsigned 2), .text "\"\n\x01/"), (.text "true", .map [])]).value.toLine =
    .ok "\x7b\"true\":[null,-7],\"2\":\"\\\"\\n\\u0001/\",\"true\":\x7b\x7d\x7d" := by
  rfl

end LinkReport.Json

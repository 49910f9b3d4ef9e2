import LinkReport.Proofs.Json.Floats
import LinkReport.Proofs.Json.RoundTrip

/-!
# Keys that cannot be written

The writing of a value fails at a key and nowhere else. The keys are met in the order in which
they are written, each before what stands under it, and the first that has no text decides about
the error. A float that is not finite has no text as a key, and is `null` in any other place.

* `Value.keys` the keys in their order, `IsBadKey` those that have no text
* `Value.failure?_write` the writing fails as the first of the keys does
* `Value.ReadsAs` what a value is read as, with `null` for each float that is not finite
* `Value.toLine_eq_error_iff` the lines that cannot be written, and what is read of the others
-/

namespace LinkReport.Json

/-! ## Failures -/

/-- The error of a computation that fails. -/
def failure? {α : Type} : Except KeyError α → Option KeyError
  | .ok _ => none
  | .error e => some e

/-- The first of two computations decides, if the second fails in one way only. -/
theorem failure?_bind {α β : Type} {x : Except KeyError α} {f : α → Except KeyError β}
    {e? : Option KeyError} (h : ∀ a, failure? (f a) = e?) :
    failure? (x >>= f) = (failure? x).or e? := by
  cases x with
  | ok a => exact h a
  | error e => rfl

theorem failure?_bind_ok {α β : Type} (x : Except KeyError α) (f : α → β) :
    failure? (x >>= fun a => .ok (f a)) = failure? x := by
  cases x <;> rfl

theorem failure?_eq_some_iff {α : Type} {x : Except KeyError α} {e : KeyError} :
    failure? x = some e ↔ x = .error e := by
  cases x <;> simp [failure?]

theorem failure?_eq_none_iff {α : Type} {x : Except KeyError α} :
    failure? x = none ↔ ∃ a, x = .ok a := by
  cases x <;> simp [failure?]

/-! ## Keys -/

/-- The key has no text, and the error says so. -/
inductive IsBadKey : Value → String → Prop where
  | null : IsBadKey .null "key must be a string"
  | list (items : List Value) : IsBadKey (.list items) "key must be a string"
  | map (entries : List (Value × Value)) : IsBadKey (.map entries) "key must be a string"
  | float (x : Binary64) (h : x.isFinite = false) :
    IsBadKey (.float x) "float key must be finite (got NaN or +/-inf)"

namespace Value

mutual

/-- The keys of all maps in a value, in the order in which they are written. A key comes before
what stands under it, and what is in a key does not count. -/
def keys : Value → List Value
  | .list items => itemKeys items
  | .map entries => entryKeys entries
  | .null | .boolean _ | .integer _ | .float _ | .text _ => []

/-- The keys in the items of a list. -/
def itemKeys : List Value → List Value
  | [] => []
  | v :: vs => v.keys ++ itemKeys vs

/-- The keys of the entries of a map, and those in their values. -/
def entryKeys : List (Value × Value) → List Value
  | [] => []
  | (k, v) :: entries => k :: (v.keys ++ entryKeys entries)

end

/-- The bad keys are those without a text. -/
theorem isBadKey_iff {k : Value} {text : String} :
    IsBadKey k text ↔ ∃ e, failure? k.keyText = some e ∧ e.message = text := by
  constructor
  · intro hbad
    cases hbad with
    | null => exact ⟨.notText, rfl, rfl⟩
    | list items => exact ⟨.notText, rfl, rfl⟩
    | map entries => exact ⟨.notText, rfl, rfl⟩
    | float x h => exact ⟨.notFinite, by simp [keyText, h, failure?], rfl⟩
  · rintro ⟨e, hfails, rfl⟩
    cases k with
    | text s => cases hfails
    | boolean b => cases hfails
    | integer n => cases hfails
    | null =>
      cases hfails
      exact .null
    | list items =>
      cases hfails
      exact .list items
    | map entries =>
      cases hfails
      exact .map entries
    | float x =>
      rw [failure?_eq_some_iff, keyText] at hfails
      split at hfails
      · cases hfails
      · next hnot =>
        cases hfails
        exact .float x (Bool.eq_false_iff.2 hnot)

theorem isBadKey_message_iff {k : Value} {e : KeyError} :
    IsBadKey k e.message ↔ failure? k.keyText = some e := by
  have hmessage : ∀ e e' : KeyError, e.message = e'.message → e = e' := by
    intro e e'
    cases e <;> cases e' <;> decide
  rw [isBadKey_iff]
  constructor
  · rintro ⟨e', hfails, htext⟩
    rwa [← hmessage e' e htext]
  · exact fun hfails => ⟨e, hfails, rfl⟩

theorem not_isBadKey_iff {k : Value} :
    (∀ text, ¬IsBadKey k text) ↔ failure? k.keyText = none := by
  rw [Option.eq_none_iff_forall_ne_some]
  refine ⟨fun h e he => h e.message (isBadKey_message_iff.2 he), fun h text hbad => ?_⟩
  obtain ⟨e, he, -⟩ := isBadKey_iff.1 hbad
  exact h e he

theorem findSome?_cons_eq_or {α β : Type} (f : α → Option β) (a : α) (as : List α) :
    (a :: as).findSome? f = (f a).or (as.findSome? f) := by
  rw [List.findSome?_cons]
  cases f a <;> rfl

mutual

/-- By the structure of the value: the parts are written one after the other, so the first of
them that fails decides. -/
theorem failure?_write : (v : Value) →
    failure? v.write = v.keys.findSome? fun k => failure? k.keyText
  | .null => rfl
  | .boolean _ => rfl
  | .integer _ => rfl
  | .float _ => rfl
  | .text _ => rfl
  | .list [] => rfl
  | .list (v :: vs) => by
    rw [write, keys, itemKeys, List.findSome?_append, ← failure?_write v,
      ← failure?_writeItems vs]
    exact failure?_bind fun first => failure?_bind_ok _ _
  | .map [] => rfl
  | .map ((k, v) :: entries) => by
    rw [write, keys, entryKeys, findSome?_cons_eq_or, List.findSome?_append, ← failure?_write v,
      ← failure?_writeEntries entries]
    exact failure?_bind fun key => failure?_bind fun value => failure?_bind_ok _ _

theorem failure?_writeItems : (vs : List Value) →
    failure? (writeItems vs) = (itemKeys vs).findSome? fun k => failure? k.keyText
  | [] => rfl
  | v :: vs => by
    rw [writeItems, itemKeys, List.findSome?_append, ← failure?_write v, ← failure?_writeItems vs]
    exact failure?_bind fun first => failure?_bind_ok _ _

theorem failure?_writeEntries : (entries : List (Value × Value)) →
    failure? (writeEntries entries) = (entryKeys entries).findSome? fun k => failure? k.keyText
  | [] => rfl
  | (k, v) :: entries => by
    rw [writeEntries, entryKeys, findSome?_cons_eq_or, List.findSome?_append, ← failure?_write v,
      ← failure?_writeEntries entries]
    exact failure?_bind fun key => failure?_bind fun value => failure?_bind_ok _ _

end

/-! ## Floats that are not finite -/

mutual

/-- The value with `null` in place of each float that is not finite. Keys stay as they are. -/
def withNulls : Value → Value
  | .float x => if x.isFinite then .float x else .null
  | .list items => .list (itemsWithNulls items)
  | .map entries => .map (entriesWithNulls entries)
  | .null => .null
  | .boolean b => .boolean b
  | .integer n => .integer n
  | .text s => .text s

/-- The items of a list with `null` in place of each float that is not finite. -/
def itemsWithNulls : List Value → List Value
  | [] => []
  | v :: vs => v.withNulls :: itemsWithNulls vs

/-- The entries of a map with `null` in place of each float that is not finite. -/
def entriesWithNulls : List (Value × Value) → List (Value × Value)
  | [] => []
  | (k, v) :: entries => (k, v.withNulls) :: entriesWithNulls entries

end

mutual

/-- A float that is not finite is written as `null` is, wherever it is not a key. -/
theorem write_withNulls : (v : Value) → v.withNulls.write = v.write
  | .float x => by
    rw [withNulls, write, writeFloat]
    split <;> simp [write, writeFloat, *]
  | .list [] => rfl
  | .list (v :: vs) => by
    rw [withNulls, itemsWithNulls, write, write, write_withNulls v, writeItems_withNulls vs]
  | .map [] => rfl
  | .map ((k, v) :: entries) => by
    rw [withNulls, entriesWithNulls, write, write, write_withNulls v,
      writeEntries_withNulls entries]
  | .null => rfl
  | .boolean _ => rfl
  | .integer _ => rfl
  | .text _ => rfl

theorem writeItems_withNulls : (vs : List Value) → writeItems (itemsWithNulls vs) = writeItems vs
  | [] => rfl
  | v :: vs => by
    rw [itemsWithNulls, writeItems, writeItems, write_withNulls v, writeItems_withNulls vs]

theorem writeEntries_withNulls : (entries : List (Value × Value)) →
    writeEntries (entriesWithNulls entries) = writeEntries entries
  | [] => rfl
  | (k, v) :: entries => by
    rw [entriesWithNulls, writeEntries, writeEntries, write_withNulls v,
      writeEntries_withNulls entries]

end

/-! ## What is read of a line -/

/-- Where `null` may stand, a float that is not finite is written as that word. -/
theorem line_notFinite {x : Binary64} (h : x.isFinite = false) :
    Line (.float x) "null".toList .null where
  write := by rw [write, writeFloat, h]; rfl
  isPrintable := Line.null.isPrintable
  read := Line.null.read

theorem line_finite {x : Binary64} {w : Value} (h : x.isFinite = true)
    (hw : Grammar.Numeral (floatLayout.write x) w) :
    Line (.float x) (floatLayout.write x) w :=
  .numeral (by rw [write, writeFloat, h]; rfl) hw

mutual

/-- What a value is read as. There is `null` for each float that is not finite and for nothing
else but `null`, a number is what its numeral spells, and a key is the string of its text. -/
inductive ReadsAs : Value → Value → Prop where
  | null : ReadsAs .null .null
  | boolean (b : Bool) : ReadsAs (.boolean b) (.boolean b)
  | text (s : String) : ReadsAs (.text s) (.text s)
  | integer {n : Int} (h : Fits n) : ReadsAs (.integer n) (.integer n)
  | wide {n : Int} {y : Binary64} (h : ¬Fits n)
    (hy : Grammar.Numeral (writeInteger n) (.float y)) : ReadsAs (.integer n) (.float y)
  | finite {x y : Binary64} (h : x.isFinite = true)
    (hy : Grammar.Numeral (floatLayout.write x) (.float y)) : ReadsAs (.float x) (.float y)
  | notFinite {x : Binary64} (h : x.isFinite = false) : ReadsAs (.float x) .null
  | list {vs ws : List Value} (h : ItemsReadAs vs ws) : ReadsAs (.list vs) (.list ws)
  | map {vs ws : List (Value × Value)} (h : EntriesReadAs vs ws) : ReadsAs (.map vs) (.map ws)

/-- What the items of a list are read as. -/
inductive ItemsReadAs : List Value → List Value → Prop where
  | nil : ItemsReadAs [] []
  | cons {v w : Value} {vs ws : List Value} (h : ReadsAs v w) (hs : ItemsReadAs vs ws) :
    ItemsReadAs (v :: vs) (w :: ws)

/-- What the entries of a map are read as. -/
inductive EntriesReadAs : List (Value × Value) → List (Value × Value) → Prop where
  | nil : EntriesReadAs [] []
  | cons {k v w : Value} {name : String} {vs ws : List (Value × Value)}
    (hkey : k.keyText = .ok name.toList) (h : ReadsAs v w) (hs : EntriesReadAs vs ws) :
    EntriesReadAs ((k, v) :: vs) ((.text name, w) :: ws)

end

/-- The key is written as a string. -/
def HasName (k : Value) : Prop :=
  ∃ name : String, k.keyText = .ok name.toList

theorem hasName_iff {k : Value} : k.HasName ↔ failure? k.keyText = none := by
  rw [failure?_eq_none_iff]
  constructor
  · rintro ⟨name, hname⟩
    exact ⟨_, hname⟩
  · rintro ⟨cs, hcs⟩
    exact ⟨String.ofList cs, by rw [hcs, String.toList_ofList]⟩

mutual

/-- By the structure of the value, as its line is put together. -/
theorem exists_line : (v : Value) → (∀ k ∈ v.keys, k.HasName) →
    ∃ cs w, Line v cs w ∧ v.ReadsAs w
  | .null, _ => ⟨_, _, .null, .null⟩
  | .boolean b, _ => ⟨_, _, .boolean b, .boolean b⟩
  | .text s, _ => ⟨_, _, .text s, .text s⟩
  | .integer n, _ => by
    by_cases hfits : Fits n
    · exact ⟨_, _, .integer hfits, .integer hfits⟩
    · have hnumeral := numeral_writeInteger n
      obtain ⟨y, hy⟩ := (wholeNumber_natAbs n).2 hfits
      rw [hy] at hnumeral
      exact ⟨_, _, .numeral rfl hnumeral, .wide hfits hnumeral⟩
  | .float x, _ => by
    cases hfinite : x.isFinite with
    | false => exact ⟨_, _, line_notFinite hfinite, .notFinite hfinite⟩
    | true =>
      obtain ⟨y, hy⟩ := exists_numeral_write hfinite
      exact ⟨_, _, line_finite hfinite hy, .finite hfinite hy⟩
  | .list [], _ => ⟨_, _, .emptyList, .list .nil⟩
  | .list (v :: vs), h =>
    have ⟨_, _, hv, hw⟩ := exists_line v fun k hk => h k (List.mem_append_left _ hk)
    have ⟨_, _, hvs, hws⟩ := exists_items vs fun k hk => h k (List.mem_append_right _ hk)
    ⟨_, _, hv.list hvs, .list (.cons hw hws)⟩
  | .map [], _ => ⟨_, _, .emptyMap, .map .nil⟩
  | .map ((k, v) :: entries), h =>
    have ⟨_, hkey⟩ := h k List.mem_cons_self
    have ⟨_, _, hv, hw⟩ := exists_line v fun l hl =>
      h l (List.mem_cons_of_mem k (List.mem_append_left _ hl))
    have ⟨_, _, hvs, hws⟩ := exists_entries entries fun l hl =>
      h l (List.mem_cons_of_mem k (List.mem_append_right _ hl))
    ⟨_, _, .map hkey hv hvs, .map (.cons hkey hw hws)⟩

theorem exists_items : (vs : List Value) → (∀ k ∈ itemKeys vs, k.HasName) →
    ∃ cs ws, Items vs cs ws ∧ ItemsReadAs vs ws
  | [], _ => ⟨_, _, .nil, .nil⟩
  | v :: vs, h =>
    have ⟨_, _, hv, hw⟩ := exists_line v fun k hk => h k (List.mem_append_left _ hk)
    have ⟨_, _, hvs, hws⟩ := exists_items vs fun k hk => h k (List.mem_append_right _ hk)
    ⟨_, _, .cons hv hvs, .cons hw hws⟩

theorem exists_entries : (entries : List (Value × Value)) →
    (∀ k ∈ entryKeys entries, k.HasName) →
    ∃ cs ws, Entries entries cs ws ∧ EntriesReadAs entries ws
  | [], _ => ⟨_, _, .nil, .nil⟩
  | (k, v) :: entries, h =>
    have ⟨_, hkey⟩ := h k List.mem_cons_self
    have ⟨_, _, hv, hw⟩ := exists_line v fun l hl =>
      h l (List.mem_cons_of_mem k (List.mem_append_left _ hl))
    have ⟨_, _, hvs, hws⟩ := exists_entries entries fun l hl =>
      h l (List.mem_cons_of_mem k (List.mem_append_right _ hl))
    ⟨_, _, .cons hkey hv hvs, .cons hkey hw hws⟩

end

/-! ## Lines that cannot be written -/

theorem failure?_toLine (v : Value) : failure? v.toLine = failure? v.write := by
  unfold toLine
  cases v.write <;> rfl

/-- A line that is written is JSON, and is read as the value that it is written from. -/
theorem read?_of_toLine {v : Value} {line : String} (h : v.toLine = .ok line) :
    ∃ w, v.ReadsAs w ∧ Value.read? line = some w := by
  have hnames : ∀ k ∈ v.keys, k.HasName := by
    have hfailure : failure? v.toLine = none := failure?_eq_none_iff.2 ⟨line, h⟩
    rw [failure?_toLine, failure?_write, List.findSome?_eq_none_iff] at hfailure
    exact fun k hk => hasName_iff.2 (hfailure k hk)
  obtain ⟨cs, w, hline, hw⟩ := exists_line v hnames
  obtain ⟨hwritten, -, hread⟩ := hline.read?
  rw [h] at hwritten
  rw [Except.ok.inj hwritten]
  exact ⟨w, hw, hread⟩

/-- A value has no line exactly if one of its keys has no text. The first such key decides about
the error, whatever stands after it, and a float in another place never counts: if it is not
finite, then `null` is written in its place, and `null` is read there. -/
theorem toLine_eq_error_iff (v : Value) :
    (∀ e, v.toLine = .error e ↔ ∃ before key after, v.keys = before ++ key :: after ∧
      (∀ k ∈ before, ∀ text, ¬IsBadKey k text) ∧ IsBadKey key e.message) ∧
    ((∃ line, v.toLine = .ok line) ↔ ∀ k ∈ v.keys, ∀ text, ¬IsBadKey k text) ∧
    (∀ x : Binary64, x.isFinite = false → (Value.float x).toLine = .ok "null") ∧
    v.withNulls.toLine = v.toLine ∧
    ∀ line, v.toLine = .ok line →
      ∃ w, v.ReadsAs w ∧ Value.read? line = some w ∧ Grammar.IsText line.toList w := by
  simp only [not_isBadKey_iff, isBadKey_message_iff]
  refine ⟨fun e => ?_, ?_, fun x hx => (line_notFinite hx).read?.1, ?_, fun line hline => ?_⟩
  · rw [← failure?_eq_some_iff, failure?_toLine, failure?_write, List.findSome?_eq_some_iff]
    simp only [and_comm]
  · rw [← failure?_eq_none_iff, failure?_toLine, failure?_write, List.findSome?_eq_none_iff]
  · rw [toLine, write_withNulls, toLine]
  · obtain ⟨w, hw, hread⟩ := read?_of_toLine hline
    exact ⟨w, hw, hread, Grammar.isText_of_read? hread⟩

/-- An infinite value does no harm, and of two bad keys the one that is met first decides. -/
example : (Value.list [.float (.infinite false), .map [(.text "a", .map [(.float .nan, .null)]),
    (.null, .null)]]).toLine = .error .notFinite := by
  rfl

/-- Under keys and in lists `null` is written, but a finite float keeps its digits. -/
example : (Value.map [(.text "a", .float .nan), (.integer 7, .list [.float (.infinite true),
    .float (.finite false 1 1073)])]).toLine =
      .ok "\x7b\"a\":null,\"7\":[null,0.5]\x7d" := by
  decide +kernel

end Value
end LinkReport.Json

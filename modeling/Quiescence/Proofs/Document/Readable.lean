import Mathlib.Data.List.Basic
import Mathlib.Data.Option.Basic
import Mathlib.Tactic.SplitIfs
import Quiescence.Json.Reader
import Quiescence.Toml.Reader

/-! # Texts that follow the rules of their format

Nothing in the document of such a text is unreadable, whatever the text says. So whatever a document
of either format holds can be passed over by a decoder that has no use for it.
-/

namespace Quiescence

namespace Doc

theorem areSkippable_iff {docs : List Doc} : areSkippable docs ↔ ∀ doc ∈ docs, doc.isSkippable := by
  induction docs with
  | nil => simp [areSkippable]
  | cons doc docs ih => simp [areSkippable, ih]

theorem areFieldsSkippable_iff {fields : List (Doc × Doc)} : areFieldsSkippable fields ↔
    ∀ field ∈ fields, field.1.isSkippable ∧ field.2.isSkippable := by
  induction fields with
  | nil => simp [areFieldsSkippable]
  | cons field fields ih => simp [areFieldsSkippable, ih, and_assoc]

theorem isSkippable_seq_iff {docs : List Doc} :
    (seq docs).isSkippable ↔ ∀ doc ∈ docs, doc.isSkippable :=
  areSkippable_iff

theorem isSkippable_map_iff {fields : List (Doc × Doc)} : (map fields).isSkippable ↔
    ∀ field ∈ fields, field.1.isSkippable ∧ field.2.isSkippable :=
  areFieldsSkippable_iff

end Doc

namespace Json

/-! ## Numbers and tokens of JSON -/

variable {cs rest : List Char} {doc : Doc}

theorem isSkippable_floatDoc (negative : Bool) (whole fraction : List Char) (exponent : Int) :
    (floatDoc negative whole fraction exponent).isSkippable := by
  simp only [floatDoc]
  split <;> rfl

theorem isSkippable_integerDoc (negative : Bool) (whole : List Char) :
    (integerDoc negative whole).isSkippable := by
  simp only [integerDoc]
  split_ifs <;> first | rfl | exact isSkippable_floatDoc ..

theorem isSkippable_of_unsigned? {negative : Bool}
    (read : unsigned? negative cs = some (doc, rest)) : doc.isSkippable := by
  simp only [unsigned?, bind, Option.bind_eq_some_iff] at read
  obtain ⟨⟨whole, behind⟩, _, read⟩ := read
  split_ifs at read
  obtain ⟨⟨fraction, behind⟩, _, read⟩ := Option.bind_eq_some_iff.mp read
  obtain ⟨⟨exponent, behind⟩, _, read⟩ := Option.bind_eq_some_iff.mp read
  dsimp only at read
  split_ifs at read <;> cases read
  · exact isSkippable_integerDoc ..
  · exact isSkippable_floatDoc ..

theorem isSkippable_of_number? (read : number? cs = some (doc, rest)) : doc.isSkippable := by
  unfold number? at read
  split at read <;> exact isSkippable_of_unsigned? read

/-- Whether the value of a token, if it has one, can be passed over. -/
def Token.IsSound : Token → Prop
  | .scalar doc => doc.isSkippable
  | _ => True

theorem isSound_of_first? {token : Token} (read : first? cs = some (token, rest)) :
    token.IsSound := by
  unfold first? at read
  split at read
  case h_1 => cases read
  case h_8 =>
    obtain ⟨_, _, read⟩ := Option.bind_eq_some_iff.mp read
    cases read
    trivial
  case h_12 =>
    obtain ⟨⟨doc, behind⟩, number, read⟩ := Option.map_eq_some_iff.mp read
    cases read
    exact isSkippable_of_number? number
  all_goals
    cases read
    trivial

theorem isSound_of_mem_tokensUpTo {fuel : Nat} : ∀ token ∈ tokensUpTo fuel cs, token.IsSound := by
  induction fuel generalizing cs with
  | zero =>
    unfold tokensUpTo
    split <;> simp [Token.IsSound]
  | succ fuel ih =>
    unfold tokensUpTo
    split
    · simp
    · split
      · next same read =>
        cases same
        exact List.forall_mem_cons.mpr ⟨isSound_of_first? read, ih⟩
      · simp [Token.IsSound]

/-! ## The stack of JSON -/

/-- Whether everything that an open container holds can be passed over. -/
def Frame.IsSound : Frame → Prop
  | .array items => ∀ doc ∈ items, doc.isSkippable
  | .object fields => ∀ field ∈ fields, field.1.isSkippable ∧ field.2.isSkippable
  | .member fields key =>
    key.isSkippable ∧ ∀ field ∈ fields, field.1.isSkippable ∧ field.2.isSkippable

namespace Progress

/-- Whether everything that has been read can be passed over, as long as no rule was broken. -/
def IsSound : Progress → Prop
  | expecting _ stack => ∀ frame ∈ stack, frame.IsSound
  | finished doc => doc.isSkippable
  | stopped _ => True

variable {stack : List Frame} {place : Place}

theorem isSound_put (docSound : doc.isSkippable) (opened : ∀ frame ∈ stack, frame.IsSound) :
    (put doc stack).IsSound := by
  cases stack with
  | nil => exact docSound
  | cons frame stack =>
    obtain ⟨first, others⟩ := List.forall_mem_cons.mp opened
    cases frame with
    | array items =>
      exact List.forall_mem_cons.mpr ⟨List.forall_mem_cons.mpr ⟨docSound, first⟩, others⟩
    | object fields => trivial
    | member fields key =>
      have finished : (Frame.object ((key, doc) :: fields)).IsSound :=
        List.forall_mem_cons.mpr ⟨⟨first.1, docSound⟩, first.2⟩
      exact List.forall_mem_cons.mpr ⟨finished, others⟩

theorem isSound_putKey (docSound : doc.isSkippable) (opened : ∀ frame ∈ stack, frame.IsSound) :
    (putKey doc stack).IsSound := by
  unfold putKey
  split
  · obtain ⟨first, others⟩ := List.forall_mem_cons.mp opened
    exact List.forall_mem_cons.mpr ⟨⟨docSound, first⟩, others⟩
  · trivial

theorem isSound_enter {first : Place} {frame : Frame} (empty : frame.IsSound) (emptyDoc : Doc)
    (opened : ∀ frame ∈ stack, frame.IsSound) :
    (enter place first frame emptyDoc stack).IsSound := by
  unfold enter
  split_ifs
  · exact List.forall_mem_cons.mpr ⟨empty, opened⟩
  · trivial
  · trivial

theorem isSound_closeArray {items : List Doc}
    (opened : ∀ frame ∈ .array items :: stack, frame.IsSound) :
    (put (.seq items.reverse) stack).IsSound := by
  obtain ⟨first, others⟩ := List.forall_mem_cons.mp opened
  refine isSound_put (Doc.isSkippable_seq_iff.mpr ?_) others
  exact fun doc mem => first doc (List.mem_reverse.mp mem)

theorem isSound_closeObject {fields : List (Doc × Doc)}
    (opened : ∀ frame ∈ .object fields :: stack, frame.IsSound) :
    (put (.map fields.reverse) stack).IsSound := by
  obtain ⟨first, others⟩ := List.forall_mem_cons.mp opened
  refine isSound_put (Doc.isSkippable_map_iff.mpr ?_) others
  exact fun field mem => first field (List.mem_reverse.mp mem)

theorem isSkippable_textDoc (text : Option String) : (textDoc text).isSkippable := by
  cases text <;> rfl

/-- One more sound token leaves nothing unreadable. -/
theorem IsSound.step {progress : Progress} (sound : progress.IsSound) {token : Token}
    (tokenSound : token.IsSound) : (progress.step token).IsSound := by
  cases progress with
  | finished doc => trivial
  | stopped doc => trivial
  | expecting place stack =>
    have opened : ∀ frame ∈ stack, frame.IsSound := sound
    cases token with
    | text s =>
      simp only [Progress.step]
      split_ifs
      · exact isSound_put (isSkippable_textDoc s) opened
      · exact isSound_putKey (isSkippable_textDoc s) opened
      · trivial
    | scalar doc =>
      simp only [Progress.step]
      split_ifs
      · exact isSound_put tokenSound opened
      · trivial
      · trivial
    | openArray => exact isSound_enter (by simp [Frame.IsSound]) _ opened
    | openObject => exact isSound_enter (by simp [Frame.IsSound]) _ opened
    | closeArray =>
      simp only [Progress.step]
      split <;> first | exact isSound_closeArray opened | trivial
    | closeObject =>
      simp only [Progress.step]
      split <;> first | exact isSound_closeObject opened | trivial
    | comma =>
      simp only [Progress.step]
      split <;> first | exact opened | trivial
    | colon =>
      simp only [Progress.step]
      split_ifs
      · exact opened
      · trivial
    | bad => trivial

theorem IsSound.foldl {progress : Progress} (sound : progress.IsSound) {tokens : List Token}
    (allSound : ∀ token ∈ tokens, token.IsSound) :
    (tokens.foldl Progress.step progress).IsSound := by
  induction tokens generalizing progress with
  | nil => exact sound
  | cons token tokens ih =>
    obtain ⟨first, others⟩ := List.forall_mem_cons.mp allSound
    exact ih (sound.step first) others

end Progress

/-- Everything that a complete JSON text holds can be passed over. -/
theorem isSkippable_of_complete {text : String} (complete : (read text).complete) :
    (read text).doc.isSkippable := by
  have start : Progress.IsSound (.expecting .value []) := List.forall_mem_nil _
  have sound : ((tokens text).foldl Progress.step (.expecting .value [])).IsSound :=
    start.foldl isSound_of_mem_tokensUpTo
  rw [read] at complete ⊢
  cases progress : (tokens text).foldl Progress.step (.expecting .value []) with
  | finished doc => rwa [progress] at sound
  | _ => rw [progress] at complete; cases complete

end Json

namespace Toml

/-! ## Values of TOML -/

variable {cs rest : List Char} {doc : Doc}

theorem isSkippable_of_integerDoc? {base : Nat} {negative : Bool} {ds : List Char}
    (made : integerDoc? base negative ds = some doc) : doc.isSkippable := by
  simp only [integerDoc?] at made
  split_ifs at made <;> cases made <;> rfl

theorem isSkippable_of_floatDoc? {negative : Bool} {digits : Nat} {exponent : Int}
    (made : floatDoc? negative digits exponent = some doc) : doc.isSkippable := by
  unfold floatDoc? at made
  split at made
  · cases made
    rfl
  · split_ifs at made
    cases made
    rfl

theorem isSkippable_of_based? {base : Nat} {isDigit : Char → Bool}
    (read : based? base isDigit cs = some (doc, rest)) : doc.isSkippable := by
  obtain ⟨⟨ds, behind⟩, _, read⟩ := Option.bind_eq_some_iff.mp read
  obtain ⟨found, made, read⟩ := Option.bind_eq_some_iff.mp read
  cases read
  exact isSkippable_of_integerDoc? made

theorem isSkippable_of_integer? (read : integer? cs = some (doc, rest)) : doc.isSkippable := by
  unfold integer? at read
  split at read
  · exact isSkippable_of_based? read
  · exact isSkippable_of_based? read
  · exact isSkippable_of_based? read
  · obtain ⟨⟨ds, behind⟩, _, read⟩ := Option.bind_eq_some_iff.mp read
    obtain ⟨found, made, read⟩ := Option.bind_eq_some_iff.mp read
    cases read
    exact isSkippable_of_integerDoc? made

theorem isSkippable_of_decimal? (read : decimal? cs = some (doc, rest)) : doc.isSkippable := by
  obtain ⟨⟨whole, behind⟩, _, read⟩ := Option.bind_eq_some_iff.mp read
  obtain ⟨⟨fraction, behind⟩, _, read⟩ := Option.bind_eq_some_iff.mp read
  obtain ⟨⟨exponent, behind⟩, _, read⟩ := Option.bind_eq_some_iff.mp read
  dsimp only at read
  split_ifs at read
  obtain ⟨found, made, read⟩ := Option.bind_eq_some_iff.mp read
  cases read
  exact isSkippable_of_floatDoc? made

theorem isSkippable_of_special? (read : special? cs = some (doc, rest)) : doc.isSkippable := by
  unfold special? at read
  split at read <;> cases read <;> rfl

theorem isSkippable_of_datetime? (read : datetime? cs = some (doc, rest)) : doc.isSkippable := by
  unfold datetime? at read
  split at read
  · cases read
    rfl
  · obtain ⟨_, _, read⟩ := Option.map_eq_some_iff.mp read
    cases read
    rfl

theorem isSkippable_of_scalar? (read : scalar? cs = some (doc, rest)) : doc.isSkippable := by
  have text {x : Option (List Char × List Char)} {f : List Char × List Char → Doc × List Char}
      (strings : ∀ pair, (f pair).1.isSkippable) (read : x.map f = some (doc, rest)) :
      doc.isSkippable := by
    obtain ⟨pair, _, read⟩ := Option.map_eq_some_iff.mp read
    have string := strings pair
    rwa [read] at string
  unfold scalar? at read
  split at read
  · exact text (fun _ => rfl) read
  · exact text (fun _ => rfl) read
  · cases read
    rfl
  · cases read
    rfl
  · rcases (Option.orElse_eq_some _ _ _).mp read with read | ⟨_, read⟩
    · exact isSkippable_of_datetime? read
    rcases (Option.orElse_eq_some _ _ _).mp read with read | ⟨_, read⟩
    · exact isSkippable_of_decimal? read
    rcases (Option.orElse_eq_some _ _ _).mp read with read | ⟨_, read⟩
    · exact isSkippable_of_special? read
    · exact isSkippable_of_integer? read

/-! ## Tables of TOML -/

namespace Entries

theorem toFields_eq_map (entries : Entries) :
    toFields entries = entries.map fun (key, item) => (.str key, itemDoc item) := by
  induction entries with
  | nil => rfl
  | cons entry entries ih => rw [toFields, ih, List.map_cons]

theorem tableDocs_eq_map (elements : List Entries) :
    tableDocs elements = elements.map fun entries => .map (toFields entries) := by
  induction elements with
  | nil => rfl
  | cons entries elements ih => rw [tableDocs, ih, List.map_cons]

/-- Whether everything in a table can be passed over. -/
def IsSound (entries : Entries) : Prop := ∀ entry ∈ entries, (itemDoc entry.2).isSkippable

variable {entries inner result : Entries} {key : String} {item : Item}

theorem isSkippable_map_toFields_iff :
    (Doc.map (toFields entries)).isSkippable ↔ IsSound entries := by
  rw [Doc.isSkippable_map_iff, toFields_eq_map, List.forall_mem_map]
  exact forall₂_congr fun entry _ => and_iff_right rfl

theorem isSkippable_tables_iff {elements : List Entries} :
    (itemDoc (.tables elements)).isSkippable ↔ ∀ entries ∈ elements, IsSound entries := by
  rw [itemDoc, Doc.isSkippable_seq_iff, tableDocs_eq_map, List.forall_mem_map]
  exact forall₂_congr fun entries _ => isSkippable_map_toFields_iff

theorem IsSound.concat (sound : IsSound entries) (new : (itemDoc item).isSkippable) :
    IsSound (entries ++ [(key, item)]) :=
  List.forall_mem_append.mpr ⟨sound, by simpa using new⟩

theorem IsSound.replace (sound : IsSound entries) (new : (itemDoc item).isSkippable) :
    IsSound (entries.replace key item) := by
  refine List.forall_mem_map.mpr fun entry mem => ?_
  dsimp only
  split_ifs
  · exact new
  · exact sound entry mem

theorem IsSound.erase (sound : IsSound entries) : IsSound (entries.erase key) :=
  fun entry mem => sound entry (List.mem_of_mem_filter mem)

theorem IsSound.lookup (sound : IsSound entries) (found : entries.lookup key = some item) :
    (itemDoc item).isSkippable := by
  induction entries with
  | nil => cases found
  | cons entry entries ih =>
    obtain ⟨first, others⟩ := List.forall_mem_cons.mp sound
    rw [List.lookup_cons] at found
    split at found
    · cases found
      exact first
    · exact ih others found

/-- A change of the table at the end of a path keeps everything sound if it keeps that table
sound. -/
theorem IsSound.changeAt {α : Type} {dotted : Bool} {P : α → Prop}
    {change : Origin → Entries → Option (α × Entries)}
    (keeps : ∀ {origin entries a inner}, IsSound entries →
      change origin entries = some (a, inner) → P a ∧ IsSound inner)
    {path : List String} {origin : Origin} {a : α} (sound : IsSound entries)
    (changed : changeAt dotted change path origin entries = some (a, result)) :
    P a ∧ IsSound result := by
  induction path generalizing origin entries a result with
  | nil => exact keeps sound changed
  | cons key path ih =>
    rw [Entries.changeAt] at changed
    split at changed
    · obtain ⟨⟨b, inner⟩, deeper, changed⟩ := Option.bind_eq_some_iff.mp changed
      cases changed
      obtain ⟨pb, innerSound⟩ := ih (List.forall_mem_nil _) deeper
      exact ⟨pb, sound.concat (isSkippable_map_toFields_iff.mpr innerSound)⟩
    · cases changed
    · next found =>
      split_ifs at changed
      obtain ⟨⟨b, inner⟩, deeper, changed⟩ := Option.bind_eq_some_iff.mp changed
      cases changed
      obtain ⟨pb, innerSound⟩ := ih (isSkippable_map_toFields_iff.mp (sound.lookup found)) deeper
      exact ⟨pb, sound.replace (isSkippable_map_toFields_iff.mpr innerSound)⟩
    · next elements found =>
      have elementsSound := isSkippable_tables_iff.mp (sound.lookup found)
      obtain ⟨last, there, changed⟩ := Option.bind_eq_some_iff.mp changed
      obtain ⟨⟨b, inner⟩, deeper, changed⟩ := Option.bind_eq_some_iff.mp changed
      cases changed
      obtain ⟨pb, innerSound⟩ := ih (elementsSound last (List.mem_of_getLast? there)) deeper
      refine ⟨pb, sound.replace (isSkippable_tables_iff.mpr ?_)⟩
      refine List.forall_mem_append.mpr ⟨fun entries mem => ?_, by simpa using innerSound⟩
      exact elementsSound entries (List.dropLast_subset _ mem)

theorem IsSound.setValue (sound : IsSound entries) {path : List String} (docSound : doc.isSkippable)
    (set : entries.setValue path key doc = some result) : IsSound result := by
  obtain ⟨⟨_, _⟩, changed, same⟩ := Option.bind_eq_some_iff.mp set
  cases same
  refine (sound.changeAt (P := fun _ => True) ?_ changed).2
  intro origin entries _ inner sound added
  split_ifs at added
  cases added
  exact ⟨trivial, sound.concat docSound⟩

end Entries

/-! ## Arrays and inline tables -/

theorem Entries.IsSound.setValues {entries result : Entries} (sound : entries.IsSound)
    {fields : List (List String × String × Doc)} (fieldsSound : ∀ field ∈ fields,
      field.2.2.isSkippable)
    (filled : fields.foldlM (fun (entries : Entries) (path, key, doc) =>
      entries.setValue path key doc) entries = some result) : result.IsSound := by
  induction fields generalizing entries with
  | nil =>
    cases filled
    exact sound
  | cons field fields ih =>
    obtain ⟨first, others⟩ := List.forall_mem_cons.mp fieldsSound
    rw [List.foldlM_cons] at filled
    obtain ⟨next, set, filled⟩ := Option.bind_eq_some_iff.mp filled
    exact ih (sound.setValue first set) others filled

theorem isSkippable_of_inlineTable? {fields : List (List String × String × Doc)}
    (sound : ∀ field ∈ fields, field.2.2.isSkippable) (made : inlineTable? fields = some doc) :
    doc.isSkippable := by
  have empty : Entries.IsSound [] := List.forall_mem_nil _
  obtain ⟨entries, filled, made⟩ := Option.bind_eq_some_iff.mp made
  cases made
  exact Entries.isSkippable_map_toFields_iff.mpr (empty.setValues sound filled)

/-- What is read with so much fuel can be passed over: values, the items of arrays, and the values
of inline tables. -/
structure Passable (fuel : Nat) : Prop where
  value : ∀ {depth cs doc rest}, value? fuel depth cs = some (doc, rest) → doc.isSkippable
  items : ∀ {depth cs docs rest}, items? fuel depth cs = some (docs, rest) →
    ∀ doc ∈ docs, doc.isSkippable
  fields : ∀ {depth cs fields rest}, fields? fuel depth cs = some (fields, rest) →
    ∀ field ∈ fields, field.2.2.isSkippable

variable {fuel depth : Nat}

theorem Passable.value_succ (passable : Passable fuel)
    (read : value? (fuel + 1) depth cs = some (doc, rest)) : doc.isSkippable := by
  unfold value? at read
  split at read
  · next same =>
    cases same
    split_ifs at read
    obtain ⟨⟨docs, _⟩, inside, read⟩ := Option.bind_eq_some_iff.mp read
    cases read
    exact Doc.isSkippable_seq_iff.mpr (passable.items inside)
  · next same =>
    cases same
    split_ifs at read
    split at read
    · cases read
      rfl
    · obtain ⟨⟨pairs, _⟩, inside, read⟩ := Option.bind_eq_some_iff.mp read
      obtain ⟨table, made, read⟩ := Option.bind_eq_some_iff.mp read
      cases read
      exact isSkippable_of_inlineTable? (passable.fields inside) made
  · exact isSkippable_of_scalar? read

theorem Passable.items_succ (passable : Passable fuel) {docs : List Doc}
    (read : items? (fuel + 1) depth cs = some (docs, rest)) : ∀ doc ∈ docs, doc.isSkippable := by
  unfold items? at read
  obtain ⟨front, _, read⟩ := Option.bind_eq_some_iff.mp read
  split at read
  · cases read
    exact List.forall_mem_nil _
  · obtain ⟨⟨first, behind⟩, value, read⟩ := Option.bind_eq_some_iff.mp read
    obtain ⟨next, _, read⟩ := Option.bind_eq_some_iff.mp read
    split at read
    · obtain ⟨⟨others, _⟩, items, read⟩ := Option.bind_eq_some_iff.mp read
      cases read
      exact List.forall_mem_cons.mpr ⟨passable.value value, passable.items items⟩
    · cases read
      exact List.forall_mem_singleton.mpr (passable.value value)
    · cases read

theorem Passable.fields_succ (passable : Passable fuel) {fields : List (List String × String × Doc)}
    (read : fields? (fuel + 1) depth cs = some (fields, rest)) :
    ∀ field ∈ fields, field.2.2.isSkippable := by
  unfold fields? at read
  obtain ⟨⟨⟨path, key⟩, behind⟩, _, read⟩ := Option.bind_eq_some_iff.mp read
  obtain ⟨front, _, read⟩ := Option.bind_eq_some_iff.mp read
  obtain ⟨⟨first, behind⟩, value, read⟩ := Option.bind_eq_some_iff.mp read
  dsimp only at read
  split at read
  · obtain ⟨⟨others, _⟩, more, read⟩ := Option.bind_eq_some_iff.mp read
    cases read
    exact List.forall_mem_cons.mpr ⟨passable.value value, passable.fields more⟩
  · cases read
    exact List.forall_mem_singleton.mpr (passable.value value)
  · cases read

theorem passable (fuel : Nat) : Passable fuel := by
  induction fuel with
  | zero =>
    refine ⟨fun read => ?_, fun read => ?_, fun read => ?_⟩
    · unfold value? at read
      exact isSkippable_of_scalar? read
    · unfold items? at read
      cases read
    · unfold fields? at read
      cases read
  | succ fuel ih => exact ⟨ih.value_succ, ih.items_succ, ih.fields_succ⟩

/-! ## Whole texts of TOML -/

namespace Assembly

/-- Whether everything that was put together so far can be passed over. -/
structure IsSound (a : Assembly) : Prop where
  root : a.root.IsSound
  current : a.current.IsSound

variable {a b : Assembly} {path : List String} {key : String}

theorem IsSound.setValue (sound : a.IsSound) (docSound : doc.isSkippable)
    (set : a.setValue path key doc = some b) : b.IsSound := by
  obtain ⟨current, filled, same⟩ := Option.bind_eq_some_iff.mp set
  cases same
  exact ⟨sound.root, sound.current.setValue docSound filled⟩

theorem IsSound.close (sound : a.IsSound) {entries : Entries} (closed : a.close = some entries) :
    entries.IsSound := by
  unfold Assembly.close at closed
  split at closed
  · cases closed
    exact sound.current
  · obtain ⟨⟨_, root⟩, changed, closed⟩ := Option.bind_eq_some_iff.mp closed
    cases closed
    refine (sound.root.changeAt (P := fun _ => True) ?_ changed).2
    intro origin outer _ result outerSound added
    refine ⟨trivial, ?_⟩
    split at added
    · cases added
      exact outerSound.concat
        (Entries.isSkippable_tables_iff.mpr (List.forall_mem_singleton.mpr sound.current))
    · next found _ =>
      cases added
      refine outerSound.replace (Entries.isSkippable_tables_iff.mpr (List.forall_mem_append.mpr
        ⟨Entries.isSkippable_tables_iff.mp (outerSound.lookup found), ?_⟩))
      exact List.forall_mem_singleton.mpr sound.current
    · cases added
      exact outerSound.concat (Entries.isSkippable_map_toFields_iff.mpr sound.current)
    · cases added

theorem IsSound.openTable (sound : a.IsSound) (opened : a.openTable path key = some b) :
    b.IsSound := by
  obtain ⟨closed, close, opened⟩ := Option.bind_eq_some_iff.mp opened
  obtain ⟨⟨current, root⟩, changed, opened⟩ := Option.bind_eq_some_iff.mp opened
  cases opened
  have both := (sound.close close).changeAt (P := Entries.IsSound) ?_ changed
  · exact ⟨both.2, both.1⟩
  · intro origin outer inner result outerSound taken
    split at taken
    · cases taken
      exact ⟨List.forall_mem_nil _, outerSound⟩
    · next found =>
      cases taken
      exact ⟨Entries.isSkippable_map_toFields_iff.mp (outerSound.lookup found), outerSound.erase⟩
    · cases taken

theorem IsSound.openElement (sound : a.IsSound) (opened : a.openElement path key = some b) :
    b.IsSound := by
  obtain ⟨closed, close, opened⟩ := Option.bind_eq_some_iff.mp opened
  obtain ⟨⟨_, root⟩, changed, opened⟩ := Option.bind_eq_some_iff.mp opened
  cases opened
  have both := (sound.close close).changeAt (P := fun _ => True) ?_ changed
  · exact ⟨both.2, List.forall_mem_nil _⟩
  · intro origin outer _ result outerSound reserved
    refine ⟨trivial, ?_⟩
    split at reserved
    · cases reserved
      exact outerSound.concat (Entries.isSkippable_tables_iff.mpr (List.forall_mem_nil _))
    · cases reserved
      exact outerSound
    · cases reserved

end Assembly

variable {a b : Assembly}

theorem isSound_of_assignment? (sound : a.IsSound) (read : assignment? a cs = some (b, rest)) :
    b.IsSound := by
  obtain ⟨⟨⟨path, key⟩, behind⟩, _, read⟩ := Option.bind_eq_some_iff.mp read
  obtain ⟨front, _, read⟩ := Option.bind_eq_some_iff.mp read
  obtain ⟨⟨doc, behind⟩, value, read⟩ := Option.bind_eq_some_iff.mp read
  obtain ⟨c, set, read⟩ := Option.bind_eq_some_iff.mp read
  obtain ⟨_, _, read⟩ := Option.bind_eq_some_iff.mp read
  cases read
  exact sound.setValue ((passable _).value value) set

theorem isSound_of_header? (sound : a.IsSound) (read : header? a cs = some (b, rest)) :
    b.IsSound := by
  unfold header? at read
  split at read
  · obtain ⟨⟨⟨path, key⟩, behind⟩, _, read⟩ := Option.bind_eq_some_iff.mp read
    obtain ⟨front, _, read⟩ := Option.bind_eq_some_iff.mp read
    obtain ⟨c, opened, read⟩ := Option.bind_eq_some_iff.mp read
    obtain ⟨_, _, read⟩ := Option.bind_eq_some_iff.mp read
    cases read
    exact sound.openElement opened
  · obtain ⟨⟨⟨path, key⟩, behind⟩, _, read⟩ := Option.bind_eq_some_iff.mp read
    obtain ⟨front, _, read⟩ := Option.bind_eq_some_iff.mp read
    obtain ⟨c, opened, read⟩ := Option.bind_eq_some_iff.mp read
    obtain ⟨_, _, read⟩ := Option.bind_eq_some_iff.mp read
    cases read
    exact sound.openTable opened

theorem isSound_of_lines? {entries : Entries} (sound : a.IsSound)
    (read : lines? fuel a cs = some entries) : entries.IsSound := by
  induction fuel generalizing a cs with
  | zero => cases read
  | succ fuel ih =>
    rw [lines?] at read
    split at read
    · exact sound.close read
    · obtain ⟨⟨b, rest⟩, header, read⟩ := Option.bind_eq_some_iff.mp read
      exact ih (isSound_of_header? sound header) read
    · obtain ⟨_, _, read⟩ := Option.bind_eq_some_iff.mp read
      exact ih sound read
    · obtain ⟨_, _, read⟩ := Option.bind_eq_some_iff.mp read
      exact ih sound read
    · obtain ⟨_, _, read⟩ := Option.bind_eq_some_iff.mp read
      exact ih sound read
    · obtain ⟨⟨b, rest⟩, assignment, read⟩ := Option.bind_eq_some_iff.mp read
      exact ih (isSound_of_assignment? sound assignment) read

/-- Everything that a TOML text holds can be passed over. -/
theorem isSkippable_of_read? {text : String} (read : read? text = some doc) : doc.isSkippable := by
  have start : Assembly.start.IsSound := ⟨List.forall_mem_nil _, List.forall_mem_nil _⟩
  obtain ⟨entries, lines, made⟩ := Option.map_eq_some_iff.mp read
  cases made
  exact Entries.isSkippable_map_toFields_iff.mpr (isSound_of_lines? start lines)

end Toml

end Quiescence

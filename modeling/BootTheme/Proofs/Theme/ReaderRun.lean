import BootTheme.Proofs.Theme.Grammar

/-!
# Runs of the reader

Reading what items spell adds what they denote to the open block, and whatever was
read spells items, open components and the beginning of one more item. So a theme is
read exactly from what its phrases spell.
-/

namespace BootTheme

namespace Reader

open ItemPhrase (spell spell_append spell_singleton properties_append components_append)

/-- The state after tokens, unless one of them does not go on. -/
def steps : State → List Located → Option State
  | state, [] => some state
  | state, located :: rest => (state.step located).bind fun next => steps next rest

theorem steps_append (state : State) (first second : List Located) :
    steps state (first ++ second) = (steps state first).bind fun next => steps next second := by
  induction first generalizing state with
  | nil => rfl
  | cons located rest ih =>
      rw [List.cons_append, steps, steps]
      cases state.step located with
      | none => rfl
      | some next => exact ih next

/-- A run has a theme when every token goes on and the source may end behind them. -/
theorem run_eq_ok_iff (size : Nat) (tokens : List Located) (theme : Theme) :
    ∀ state reached, run size state reached tokens = .ok theme ↔
      ∃ last, steps state tokens = some last ∧ last.theme? = some theme := by
  induction tokens with
  | nil =>
      intro state reached
      rw [run, steps]
      cases ended : state.theme? with
      | none =>
          constructor
          · intro impossible
            cases impossible
          · rintro ⟨last, same, found⟩
            cases same
            rw [ended] at found
            cases found
      | some other =>
          constructor
          · intro same
            cases same
            exact ⟨state, rfl, ended⟩
          · rintro ⟨last, same, found⟩
            cases same
            rw [ended] at found
            cases found
            rfl
  | cons located rest ih =>
      intro state reached
      rw [run, steps]
      cases state.step located with
      | none =>
          constructor
          · intro impossible
            cases impossible
          · rintro ⟨last, impossible, _⟩
            cases impossible
      | some next => exact ih next located.span.stop

namespace Block

/-- The block with what further items denote. -/
def read (block : Block) (items : List ItemPhrase) : Block :=
  ⟨(ItemPhrase.properties items).reverse ++ block.properties,
    (ItemPhrase.components items).reverse ++ block.components⟩

theorem read_append (block : Block) (first second : List ItemPhrase) :
    block.read (first ++ second) = (block.read first).read second := by
  unfold read
  rw [properties_append, components_append, List.reverse_append, List.reverse_append,
    List.append_assoc, List.append_assoc]

theorem read_property (block : Block) (name : Leaf String) (separator : Leaf Separator)
    (value : ValuePhrase) :
    block.read [.property name separator value] =
      block.addProperty
        ((⟨name.datum, name.span.start⟩ : Begun).property value.value value.stop) := rfl

theorem read_component (block : Block) (plus : Span) (kind : Leaf String) (opening : Span)
    (items : List ItemPhrase) (closing : Span) :
    block.read [.component plus kind opening items closing] =
      block.addComponent (.mk kind.datum (ItemPhrase.properties items)
        (ItemPhrase.components items) ⟨plus.start, closing.stop⟩) := rfl

/-- An inner block gives its items back in order. -/
theorem reverse_read_empty (items : List ItemPhrase) :
    (empty.read items).properties.reverse = ItemPhrase.properties items ∧
      (empty.read items).components.reverse = ItemPhrase.components items := by
  unfold read empty
  rw [List.append_nil, List.append_nil, List.reverse_reverse, List.reverse_reverse]
  exact ⟨rfl, rfl⟩

end Block

/-! ## Reading what a phrase spells -/

/-- A state that reads on like one between two items: a number or a percentage at the end is
taken as a whole length. -/
inductive Settled : State → Block → List Opening → Prop where
  | item (block : Block) (openings : List Opening) :
      Settled ⟨.item, block, openings⟩ block openings
  | amount (begun : Begun) (value : Float) (stop : Nat) (block : Block)
      (openings : List Opening) :
      Settled ⟨.amount begun value stop, block, openings⟩
        (block.addProperty (begun.property (.length (.absolute value)) stop)) openings
  | percentage (begun : Begun) (value : Float) (stop : Nat) (block : Block)
      (openings : List Opening) :
      Settled ⟨.percentage begun value stop, block, openings⟩
        (block.addProperty (begun.property (.length (.relative value)) stop)) openings

namespace Settled

variable {state : State} {block : Block} {openings : List Opening}

theorem step_name (settled : Settled state block openings) (name : String) (span : Span) :
    state.step ⟨.ident name, span⟩ = some ⟨.named ⟨name, span.start⟩, block, openings⟩ := by
  cases settled <;> rfl

/-- After a percentage the plus sign stays undecided until the name of the component. -/
theorem steps_component (settled : Settled state block openings) (plus : Span)
    (kind : Leaf String) (opening : Span) :
    steps state [⟨.plus, plus⟩, kind.as .ident, ⟨.braceOpen, opening⟩] =
      some ⟨.item, .empty, ⟨kind.datum, plus.start, block⟩ :: openings⟩ := by
  cases settled <;> rfl

theorem step_close {opening : Opening} (settled : Settled state block (opening :: openings))
    (span : Span) :
    state.step ⟨.braceClose, span⟩ =
      some ⟨.item, opening.around.addComponent (.mk opening.kind block.properties.reverse
        block.components.reverse ⟨opening.start, span.stop⟩), openings⟩ := by
  cases settled <;> rfl

theorem theme?_eq (settled : Settled state block []) :
    state.theme? = some ⟨block.properties.reverse, block.components.reverse⟩ := by
  cases settled <;> rfl

end Settled

/-- A length is read to its end; only its last token may leave it open. -/
theorem steps_length (begun : Begun) (block : Block) (openings : List Opening)
    (phrase : LengthPhrase) :
    ∃ next, steps ⟨.separated begun, block, openings⟩ phrase.tokens = some next ∧
      Settled next (block.addProperty (begun.property (.length phrase.size) phrase.stop))
        openings := by
  obtain ⟨minus, number, percent⟩ := phrase
  have signed : steps ⟨.separated begun, block, openings⟩
      (LengthPhrase.tokens ⟨minus, number, percent⟩) =
        steps ⟨.amount begun (LengthPhrase.amount ⟨minus, number, percent⟩) number.span.stop,
          block, openings⟩ (LengthPhrase.tail percent) := by
    cases minus with
    | none => rfl
    | some span => rfl
  rw [signed]
  cases percent with
  | none => exact ⟨_, rfl, .amount begun _ _ block openings⟩
  | some percent =>
      obtain ⟨span, offset⟩ := percent
      cases offset with
      | none => exact ⟨_, rfl, .percentage begun _ _ block openings⟩
      | some offset =>
          obtain ⟨⟨sign, place⟩, amount⟩ := offset
          cases sign with
          | plus => exact ⟨_, rfl, .item _ openings⟩
          | minus => exact ⟨_, rfl, .item _ openings⟩

theorem steps_value (begun : Begun) (block : Block) (openings : List Opening)
    (phrase : ValuePhrase) :
    ∃ next, steps ⟨.separated begun, block, openings⟩ phrase.tokens = some next ∧
      Settled next (block.addProperty (begun.property phrase.value phrase.stop)) openings := by
  cases phrase with
  | string text => exact ⟨_, rfl, .item _ openings⟩
  | word name => exact ⟨_, rfl, .item _ openings⟩
  | bool value => exact ⟨_, rfl, .item _ openings⟩
  | length phrase => exact steps_length begun block openings phrase

mutual

/-- Reading the tokens of an item adds what it denotes to the block. -/
theorem steps_item {state : State} {block : Block} {openings : List Opening}
    (settled : Settled state block openings) :
    ∀ item : ItemPhrase, ∃ next, steps state item.tokens = some next ∧
      Settled next (block.read [item]) openings
  | .property name separator value => by
      obtain ⟨next, stepped, done⟩ :=
        steps_value ⟨name.datum, name.span.start⟩ block openings value
      refine ⟨next, ?_, done⟩
      have separated : steps state [name.as .ident, separator.as Separator.token] =
          some ⟨.separated ⟨name.datum, name.span.start⟩, block, openings⟩ := by
        obtain ⟨mark, place⟩ := separator
        have named := settled.step_name name.datum name.span
        unfold Leaf.as
        rw [steps, named]
        cases mark <;> rfl
      have split : (ItemPhrase.property name separator value).tokens =
          [name.as .ident, separator.as Separator.token] ++ value.tokens := by
        rw [ItemPhrase.tokens]
        rfl
      rw [split, steps_append, separated]
      exact stepped
  | .component plus kind opening items closing => by
      have inner : Settled ⟨.item, .empty, ⟨kind.datum, plus.start, block⟩ :: openings⟩ .empty
          (⟨kind.datum, plus.start, block⟩ :: openings) := .item _ _
      obtain ⟨next, stepped, done⟩ := steps_spell inner items
      have split : (ItemPhrase.component plus kind opening items closing).tokens =
          [⟨.plus, plus⟩, kind.as .ident, ⟨.braceOpen, opening⟩] ++
            (spell items ++ [⟨.braceClose, closing⟩]) := by
        rw [ItemPhrase.tokens]
        rfl
      refine ⟨_, ?_, .item (block.read [.component plus kind opening items closing]) openings⟩
      obtain ⟨innerProperties, innerComponents⟩ := Block.reverse_read_empty items
      rw [split, steps_append, settled.steps_component plus kind opening]
      change steps _ (spell items ++ [⟨.braceClose, closing⟩]) = _
      rw [steps_append, stepped]
      change (next.step ⟨.braceClose, closing⟩).bind _ = _
      rw [done.step_close closing, innerProperties, innerComponents]
      rfl

theorem steps_spell {state : State} {block : Block} {openings : List Opening}
    (settled : Settled state block openings) :
    ∀ items : List ItemPhrase, ∃ next, steps state (spell items) = some next ∧
      Settled next (block.read items) openings
  | [] => ⟨state, rfl, settled⟩
  | item :: rest => by
      obtain ⟨middle, stepped, done⟩ := steps_item settled item
      obtain ⟨next, more, allDone⟩ := steps_spell done rest
      refine ⟨next, ?_, ?_⟩
      · rw [spell, steps_append, stepped]
        exact more
      · rw [← Block.read_append] at allDone
        exact allDone

end

/-! ## What was read is spelled by phrases -/

/-- The tokens in front of the open block: the items around it and the heads of the components
that are open. -/
inductive Enclosed : List Opening → List Located → Prop where
  | outermost : Enclosed [] []
  | inside {openings : List Opening} {before : List Located} (enclosed : Enclosed openings before)
      (items : List ItemPhrase) (plus : Span) (kind : Leaf String) (opening : Span) :
      Enclosed (⟨kind.datum, plus.start, Block.empty.read items⟩ :: openings)
        (before ++ (spell items ++ [⟨.plus, plus⟩, kind.as .ident, ⟨.braceOpen, opening⟩]))

/-- The tokens of the item that has begun. -/
inductive Pending : Mode → List Located → Prop where
  | item : Pending .item []
  | named (name : Leaf String) :
      Pending (.named ⟨name.datum, name.span.start⟩) [name.as .ident]
  | separated (name : Leaf String) (separator : Leaf Separator) :
      Pending (.separated ⟨name.datum, name.span.start⟩)
        [name.as .ident, separator.as Separator.token]
  | negated (name : Leaf String) (separator : Leaf Separator) (minus : Span) :
      Pending (.negated ⟨name.datum, name.span.start⟩)
        [name.as .ident, separator.as Separator.token, ⟨.minus, minus⟩]
  | amount (name : Leaf String) (separator : Leaf Separator) (minus : Option Span)
      (number : Leaf Float) :
      Pending (.amount ⟨name.datum, name.span.start⟩
          (LengthPhrase.amount ⟨minus, number, none⟩) number.span.stop)
        (ItemPhrase.property name separator (.length ⟨minus, number, none⟩)).tokens
  | percentage (name : Leaf String) (separator : Leaf Separator) (minus : Option Span)
      (number : Leaf Float) (percent : Span) :
      Pending (.percentage ⟨name.datum, name.span.start⟩
          (LengthPhrase.amount ⟨minus, number, none⟩) percent.stop)
        (ItemPhrase.property name separator (.length ⟨minus, number, some (percent, none)⟩)).tokens
  | undecided (name : Leaf String) (separator : Leaf Separator) (minus : Option Span)
      (number : Leaf Float) (percent plus : Span) :
      Pending (.undecided ⟨name.datum, name.span.start⟩
          (LengthPhrase.amount ⟨minus, number, none⟩) percent.stop plus.start)
        ((ItemPhrase.property name separator
          (.length ⟨minus, number, some (percent, none)⟩)).tokens ++ [⟨.plus, plus⟩])
  | lessened (name : Leaf String) (separator : Leaf Separator) (minus : Option Span)
      (number : Leaf Float) (percent less : Span) :
      Pending (.lessened ⟨name.datum, name.span.start⟩
          (LengthPhrase.amount ⟨minus, number, none⟩))
        ((ItemPhrase.property name separator
          (.length ⟨minus, number, some (percent, none)⟩)).tokens ++ [⟨.minus, less⟩])
  | plus (span : Span) : Pending (.plus span.start) [⟨.plus, span⟩]
  | kind (span : Span) (kind : Leaf String) :
      Pending (.kind span.start kind.datum) [⟨.plus, span⟩, kind.as .ident]

/-- The tokens that were read on the way to a state. -/
inductive Spelled : State → List Located → Prop where
  | mk {mode : Mode} {openings : List Opening} {before pending : List Located}
      (enclosed : Enclosed openings before) (items : List ItemPhrase)
      (begun : Pending mode pending) :
      Spelled ⟨mode, Block.empty.read items, openings⟩ (before ++ (spell items ++ pending))

theorem spelled_start : Spelled .start [] := .mk .outermost [] .item

/-- A number goes on from a separator, with or without a sign, to an amount. -/
theorem tokens_amount (name : Leaf String) (separator : Leaf Separator) (minus : Option Span)
    (number : Leaf Float) (percent : Option (Span × Option OffsetPhrase)) :
    (ItemPhrase.property name separator (.length ⟨minus, number, percent⟩)).tokens =
      (ItemPhrase.property name separator (.length ⟨minus, number, none⟩)).tokens ++
        LengthPhrase.tail percent := by
  rw [ItemPhrase.tokens, ItemPhrase.tokens]
  cases minus with
  | none => rfl
  | some span => rfl

/-- A finished property is one more item. -/
theorem spelled_finished {openings : List Opening} {before : List Located}
    (enclosed : Enclosed openings before) (items : List ItemPhrase) (name : Leaf String)
    (separator : Leaf Separator) (value : ValuePhrase) :
    Spelled ⟨.item, (Block.empty.read items).addProperty
        ((⟨name.datum, name.span.start⟩ : Begun).property value.value value.stop), openings⟩
      (before ++ (spell items ++ (ItemPhrase.property name separator value).tokens)) := by
  have finished := Spelled.mk enclosed (items ++ [.property name separator value]) .item
  rw [Block.read_append, Block.read_property, spell_append, spell_singleton,
    List.append_nil] at finished
  exact finished

/-- Between two items a name, a plus sign or a closing brace goes on. -/
theorem spelled_item {mode : Mode} {openings : List Opening} {before : List Located}
    (enclosed : Enclosed openings before) (items : List ItemPhrase) {located : Located}
    {next : State}
    (stepped : State.item ⟨mode, Block.empty.read items, openings⟩ located = some next) :
    Spelled next (before ++ (spell items ++ [located])) := by
  obtain ⟨token, span⟩ := located
  cases token with
  | ident name =>
      cases stepped
      exact .mk enclosed items (.named ⟨name, span⟩)
  | plus =>
      cases stepped
      exact .mk enclosed items (.plus span)
  | braceClose =>
      cases enclosed with
      | outermost => cases stepped
      | inside outer around plus kind opening =>
          cases stepped
          obtain ⟨innerProperties, innerComponents⟩ := Block.reverse_read_empty items
          have closed :=
            Spelled.mk outer (around ++ [.component plus kind opening items span]) .item
          rw [Block.read_append, Block.read_component, spell_append, spell_singleton,
            ItemPhrase.tokens] at closed
          rw [innerProperties, innerComponents]
          simpa using closed
  | _ => cases stepped

theorem spelled_value {openings : List Opening} {before : List Located}
    (enclosed : Enclosed openings before) (items : List ItemPhrase) (name : Leaf String)
    (separator : Leaf Separator) {located : Located} {next : State}
    (stepped : State.value ⟨.separated ⟨name.datum, name.span.start⟩, Block.empty.read items,
      openings⟩ ⟨name.datum, name.span.start⟩ located = some next) :
    Spelled next (before ++ (spell items ++
      [name.as .ident, separator.as Separator.token, located])) := by
  obtain ⟨token, span⟩ := located
  cases token with
  | string text =>
      cases stepped
      exact spelled_finished enclosed items name separator (.string ⟨text, span⟩)
  | ident word =>
      cases stepped
      exact spelled_finished enclosed items name separator (.word ⟨word, span⟩)
  | bool value =>
      cases stepped
      exact spelled_finished enclosed items name separator (.bool ⟨value, span⟩)
  | minus =>
      cases stepped
      exact .mk enclosed items (.negated name separator span)
  | number value =>
      cases stepped
      exact .mk enclosed items (.amount name separator none ⟨value, span⟩)
  | _ => cases stepped

/-- After a finished property its item is one of those read. -/
theorem spelled_next {openings : List Opening} {before : List Located}
    (enclosed : Enclosed openings before) (items : List ItemPhrase) (name : Leaf String)
    (separator : Leaf Separator) (value : ValuePhrase) {located : Located} {next : State}
    (stepped : State.item ⟨.item, (Block.empty.read items).addProperty
        ((⟨name.datum, name.span.start⟩ : Begun).property value.value value.stop),
      openings⟩ located = some next) :
    Spelled next (before ++ (spell items ++
      ((ItemPhrase.property name separator value).tokens ++ [located]))) := by
  rw [← Block.read_property (Block.empty.read items) name separator value,
    ← Block.read_append] at stepped
  have done := spelled_item enclosed (items ++ [.property name separator value]) stepped
  rw [spell_append, spell_singleton, List.append_assoc] at done
  exact done

/-- After a percentage a plus sign may still start a component, and a minus sign may not. -/
theorem spelled_percentage {openings : List Opening} {before : List Located}
    (enclosed : Enclosed openings before) (items : List ItemPhrase) (name : Leaf String)
    (separator : Leaf Separator) (minus : Option Span) (number : Leaf Float) (percent : Span)
    {located : Located} {next : State}
    (stepped : State.step ⟨.percentage ⟨name.datum, name.span.start⟩
        (LengthPhrase.amount ⟨minus, number, none⟩) percent.stop, Block.empty.read items,
      openings⟩ located = some next) :
    Spelled next (before ++ (spell items ++
      ((ItemPhrase.property name separator
        (.length ⟨minus, number, some (percent, none)⟩)).tokens ++ [located]))) := by
  obtain ⟨token, span⟩ := located
  cases token with
  | plus =>
      cases stepped
      exact .mk enclosed items (.undecided name separator minus number percent span)
  | minus =>
      cases stepped
      exact .mk enclosed items (.lessened name separator minus number percent span)
  | _ =>
      exact spelled_next enclosed items name separator
        (.length ⟨minus, number, some (percent, none)⟩) stepped

/-- The offset of a percentage ends its property. -/
theorem spelled_offset {openings : List Opening} {before : List Located}
    (enclosed : Enclosed openings before) (items : List ItemPhrase) (name : Leaf String)
    (separator : Leaf Separator) (minus : Option Span) (number : Leaf Float) (percent : Span)
    (sign : Leaf OffsetSign) (offset : Leaf Float) :
    Spelled ⟨.item, (Block.empty.read items).addProperty
        ((⟨name.datum, name.span.start⟩ : Begun).property
          (.length (.combined (LengthPhrase.amount ⟨minus, number, none⟩) sign.datum
            offset.datum)) offset.span.stop), openings⟩
      (before ++ (spell items ++
        ((ItemPhrase.property name separator
            (.length ⟨minus, number, some (percent, none)⟩)).tokens ++
          [sign.as OffsetSign.token, offset.as .number]))) := by
  have done := spelled_finished enclosed items name separator
    (.length ⟨minus, number, some (percent, some ⟨sign, offset⟩)⟩)
  rw [tokens_amount] at done
  rw [tokens_amount, List.append_assoc]
  exact done

/-- Whatever goes on from a state, the tokens read so far stay spelled by phrases. -/
theorem Spelled.step {state next : State} {tokens : List Located} {located : Located}
    (spelled : Spelled state tokens) (stepped : state.step located = some next) :
    Spelled next (tokens ++ [located]) := by
  cases spelled with
  | mk enclosed items begun =>
      rw [List.append_assoc, List.append_assoc]
      cases begun with
      | item => exact spelled_item enclosed items stepped
      | named name =>
          obtain ⟨token, span⟩ := located
          cases token with
          | colon =>
              cases stepped
              exact .mk enclosed items (.separated name ⟨.colon, span⟩)
          | equals =>
              cases stepped
              exact .mk enclosed items (.separated name ⟨.equals, span⟩)
          | _ => cases stepped
      | separated name separator => exact spelled_value enclosed items name separator stepped
      | negated name separator minus =>
          obtain ⟨token, span⟩ := located
          cases token with
          | number value =>
              cases stepped
              exact .mk enclosed items (.amount name separator (some minus) ⟨value, span⟩)
          | _ => cases stepped
      | amount name separator minus number =>
          obtain ⟨token, span⟩ := located
          cases token with
          | percent =>
              cases stepped
              have begun := Pending.percentage name separator minus number span
              rw [tokens_amount] at begun
              exact .mk enclosed items begun
          | _ =>
              exact spelled_next enclosed items name separator
                (.length ⟨minus, number, none⟩) stepped
      | percentage name separator minus number percent =>
          exact spelled_percentage enclosed items name separator minus number percent stepped
      | undecided name separator minus number percent plus =>
          obtain ⟨token, span⟩ := located
          rw [List.append_assoc]
          cases token with
          | number value =>
              cases stepped
              exact spelled_offset enclosed items name separator minus number percent
                ⟨.plus, plus⟩ ⟨value, span⟩
          | ident kind =>
              cases stepped
              have done := Spelled.mk enclosed
                (items ++ [.property name separator
                  (.length ⟨minus, number, some (percent, none)⟩)])
                (.kind plus ⟨kind, span⟩)
              rw [Block.read_append, Block.read_property, spell_append, spell_singleton,
                List.append_assoc] at done
              exact done
          | _ => cases stepped
      | lessened name separator minus number percent less =>
          obtain ⟨token, span⟩ := located
          rw [List.append_assoc]
          cases token with
          | number value =>
              cases stepped
              exact spelled_offset enclosed items name separator minus number percent
                ⟨.minus, less⟩ ⟨value, span⟩
          | _ => cases stepped
      | plus plus =>
          obtain ⟨token, span⟩ := located
          cases token with
          | ident kind =>
              cases stepped
              exact .mk enclosed items (.kind plus ⟨kind, span⟩)
          | _ => cases stepped
      | kind plus kind =>
          obtain ⟨token, span⟩ := located
          cases token with
          | braceOpen =>
              cases stepped
              have inner := Spelled.mk (.inside enclosed items plus kind span) [] .item
              rw [List.append_assoc, List.append_assoc] at inner
              exact inner
          | _ => cases stepped

/-- A whole run spells what it read. -/
theorem Spelled.steps {state last : State} {read : List Located} :
    ∀ {tokens : List Located}, Spelled state read → steps state tokens = some last →
      Spelled last (read ++ tokens)
  | [], spelled, ended => by
      cases ended
      rw [List.append_nil]
      exact spelled
  | located :: rest, spelled, ended => by
      obtain ⟨next, stepped, more⟩ := Option.bind_eq_some_iff.1 ended
      have done := Spelled.steps (spelled.step stepped) more
      rw [List.append_assoc] at done
      exact done

/-- Between two items outside all components the items read so far are a theme. -/
theorem spelled_theme {openings : List Opening} {before : List Located} {theme : Theme}
    (enclosed : Enclosed openings before) (items : List ItemPhrase)
    (ended : State.theme? ⟨.item, Block.empty.read items, openings⟩ = some theme) :
    ∃ read, spell read = before ++ spell items ∧ ItemPhrase.theme read = theme := by
  cases enclosed with
  | outermost =>
      rw [(Settled.item (Block.empty.read items) []).theme?_eq,
        (Block.reverse_read_empty items).1, (Block.reverse_read_empty items).2] at ended
      cases ended
      exact ⟨items, rfl, rfl⟩
  | inside outer around plus kind opening => cases ended

/-- Where the source may end, whole items were read, and they denote the theme. -/
theorem Spelled.theme?_eq_some {state : State} {tokens : List Located} {theme : Theme}
    (spelled : Spelled state tokens) (ended : state.theme? = some theme) :
    ∃ items, spell items = tokens ∧ ItemPhrase.theme items = theme := by
  cases spelled with
  | @mk mode openings before pending enclosed items begun =>
      -- A length at the end is a whole property.
      have finished : ∀ name separator value,
          State.theme? ⟨.item, (Block.empty.read items).addProperty
            ((⟨name.datum, name.span.start⟩ : Begun).property (ValuePhrase.value value)
              value.stop), openings⟩ = some theme →
          ∃ read, spell read = before ++ (spell items ++
              (ItemPhrase.property name separator value).tokens) ∧
            ItemPhrase.theme read = theme := by
        intro name separator value whole
        rw [← Block.read_property _ name separator value, ← Block.read_append] at whole
        have done := spelled_theme enclosed _ whole
        rw [spell_append, spell_singleton] at done
        exact done
      cases begun with
      | item =>
          rw [List.append_nil]
          exact spelled_theme enclosed items ended
      | amount name separator minus number =>
          exact finished name separator (.length ⟨minus, number, none⟩) ended
      | percentage name separator minus number percent =>
          exact finished name separator (.length ⟨minus, number, some (percent, none)⟩) ended
      | _ => cases ended

end Reader

open Reader

/-- A theme is read exactly from what its items spell. -/
theorem readTheme_eq_ok_iff (size : Nat) (tokens : List Located) (theme : Theme) :
    readTheme size tokens = .ok theme ↔
      ∃ items, ItemPhrase.spell items = tokens ∧ ItemPhrase.theme items = theme := by
  unfold readTheme
  rw [run_eq_ok_iff]
  constructor
  · rintro ⟨last, stepped, ended⟩
    exact (spelled_start.steps stepped).theme?_eq_some ended
  · rintro ⟨items, rfl, rfl⟩
    obtain ⟨last, stepped, settled⟩ := steps_spell (.item .empty []) items
    refine ⟨last, stepped, ?_⟩
    obtain ⟨inProperties, inComponents⟩ := Block.reverse_read_empty items
    rw [settled.theme?_eq, inProperties, inComponents]
    rfl

/-- A source is accepted exactly when its tokens have a derivation. The derivation is the only
one, the theme is what it denotes, and a plus sign belongs to a length exactly when a number
follows it; every other plus sign starts a component. -/
theorem parseTheme_accepts_grammar (source : String) :
    ((∃ theme, parseTheme source = .ok theme) ↔
      ∃ items, ItemPhrase.spell items = (lex source).tokens) ∧
    ∀ items, ItemPhrase.spell items = (lex source).tokens →
      parseTheme source = .ok (ItemPhrase.theme items) ∧
      (∀ other, ItemPhrase.spell other = (lex source).tokens → other = items) ∧
      ∀ before plus after, (lex source).tokens = before ++ plus :: after → plus.token = .plus →
        (ItemPhrase.usesAll items)[before.length]? =
          some (if startsWithNumber after then .offset else .component) := by
  constructor
  · constructor
    · rintro ⟨theme, accepted⟩
      obtain ⟨items, spelled, _⟩ := (readTheme_eq_ok_iff _ _ theme).1 accepted
      exact ⟨items, spelled⟩
    · rintro ⟨items, spelled⟩
      exact ⟨ItemPhrase.theme items, (readTheme_eq_ok_iff _ _ _).2 ⟨items, spelled, rfl⟩⟩
  · intro items spelled
    refine ⟨(readTheme_eq_ok_iff _ _ _).2 ⟨items, spelled, rfl⟩, ?_, ?_⟩
    · intro other spelledToo
      exact ItemPhrase.spell_injective (spelledToo.trans spelled.symm)
    · intro before plus after split token
      rw [← spelled] at split
      exact (ItemPhrase.usedAll items).at_plus before plus after split token

/-- The items of `a = 50% + b { c: 2%+4 }`. -/
def percentageBeforeComponent : List ItemPhrase :=
  [.property ⟨"a", 0, 1⟩ ⟨.equals, 2, 3⟩ (.length ⟨none, ⟨50, 4, 6⟩, some (⟨6, 7⟩, none)⟩),
    .component ⟨8, 9⟩ ⟨"b", 10, 11⟩ ⟨12, 13⟩
      [.property ⟨"c", 14, 15⟩ ⟨.colon, 15, 16⟩
        (.length ⟨none, ⟨2, 17, 18⟩, some (⟨18, 19⟩, some ⟨⟨.plus, 19, 20⟩, ⟨4, 20, 21⟩⟩)⟩)]
      ⟨22, 23⟩]

theorem percentageBeforeComponent_is_accepted :
    ItemPhrase.spell percentageBeforeComponent = (lex "a = 50% + b { c: 2%+4 }").tokens ∧
    parseTheme "a = 50% + b { c: 2%+4 }" = .ok (ItemPhrase.theme percentageBeforeComponent) ∧
    (ItemPhrase.usesAll percentageBeforeComponent)[4]? = some .component ∧
    (ItemPhrase.usesAll percentageBeforeComponent)[11]? = some .offset := by
  have spelled : ItemPhrase.spell percentageBeforeComponent =
      (lex "a = 50% + b { c: 2%+4 }").tokens := by
    decide +kernel
  obtain ⟨accepted, _, atPlus⟩ :=
    (parseTheme_accepts_grammar "a = 50% + b { c: 2%+4 }").2 percentageBeforeComponent spelled
  have parts (place : Nat) (within : place < (lex "a = 50% + b { c: 2%+4 }").tokens.length) :=
    (List.take_append_drop place (lex "a = 50% + b { c: 2%+4 }").tokens).symm.trans
      (congrArg _ (List.drop_eq_getElem_cons within))
  refine ⟨spelled, accepted, ?_, ?_⟩
  · exact atPlus _ _ _ (parts 4 (by decide +kernel)) (by decide +kernel)
  · exact atPlus _ _ _ (parts 11 (by decide +kernel)) (by decide +kernel)

end BootTheme

import BootTheme.Proofs.Theme.Placeless
import BootTheme.Proofs.Theme.Tiling

/-!
# The first offending token

The tokens that the reader goes along with are exactly the beginnings of what items spell:
whatever was begun can be completed. So a source that is no theme is refused at the first
token that no theme goes on with, or at its end when every token goes on.
-/

namespace BootTheme

open ItemPhrase (spell spell_append spell_singleton)

/-- Tokens that some theme of the grammar begins with. -/
def Viable (tokens : List Token) : Prop :=
  ∃ items more, (spell items).map Located.token = tokens ++ more

/-- The token with which a source first stops being the beginning of a theme. -/
structure FirstOffending (tokens : List Located) (index : Nat) (located : Located) : Prop where
  found : tokens[index]? = some located
  offends : ¬ Viable ((tokens.take (index + 1)).map Located.token)
  least : ∀ earlier < index, Viable ((tokens.take (earlier + 1)).map Located.token)

namespace Reader

/-! ## What was begun can be completed -/

/-- An item that has begun ends in some way. -/
theorem Pending.completed {mode : Mode} {pending : List Located} (begun : Pending mode pending) :
    ∃ items more, spell items = pending ++ more := by
  have item (phrase : ItemPhrase) (more : List Located) (whole : phrase.tokens = pending ++ more) :
      ∃ items more, spell items = pending ++ more :=
    ⟨[phrase], more, (spell_singleton phrase).trans whole⟩
  cases begun with
  | item => exact ⟨[], [], rfl⟩
  | named name =>
      exact item (.property name ⟨.colon, nowhere⟩ (.bool ⟨true, nowhere⟩)) _ rfl
  | separated name separator => exact item (.property name separator (.bool ⟨true, nowhere⟩)) _ rfl
  | negated name separator minus =>
      exact item (.property name separator (.length ⟨some minus, ⟨0, nowhere⟩, none⟩)) _ rfl
  | amount name separator minus number =>
      exact item (.property name separator (.length ⟨minus, number, none⟩)) []
        (List.append_nil _).symm
  | percentage name separator minus number percent =>
      exact item (.property name separator (.length ⟨minus, number, some (percent, none)⟩)) []
        (List.append_nil _).symm
  | undecided name separator minus number percent plus =>
      refine item (.property name separator
        (.length ⟨minus, number, some (percent, some ⟨⟨.plus, plus⟩, ⟨0, nowhere⟩⟩)⟩))
        [⟨.number 0, nowhere⟩] ?_
      rw [tokens_amount, tokens_amount name separator minus number (some (percent, none)),
        List.append_assoc, List.append_assoc]
      rfl
  | lessened name separator minus number percent less =>
      refine item (.property name separator
        (.length ⟨minus, number, some (percent, some ⟨⟨.minus, less⟩, ⟨0, nowhere⟩⟩)⟩))
        [⟨.number 0, nowhere⟩] ?_
      rw [tokens_amount, tokens_amount name separator minus number (some (percent, none)),
        List.append_assoc, List.append_assoc]
      rfl
  | plus span => exact item (.component span ⟨"", nowhere⟩ nowhere [] nowhere) _ rfl
  | kind span kind => exact item (.component span kind nowhere [] nowhere) _ rfl

/-- The components that are open are closed behind whatever items they hold. -/
theorem Enclosed.closed {openings : List Opening} {before : List Located}
    (enclosed : Enclosed openings before) (inner : List ItemPhrase) :
    ∃ items more, spell items = before ++ (spell inner ++ more) := by
  induction enclosed generalizing inner with
  | outermost => exact ⟨inner, [], (List.append_nil _).symm⟩
  | inside _ around plus kind opening ih =>
      obtain ⟨items, more, whole⟩ := ih (around ++ [.component plus kind opening inner nowhere])
      refine ⟨items, ⟨.braceClose, nowhere⟩ :: more, ?_⟩
      rw [whole, spell_append, spell_singleton, ItemPhrase.tokens]
      simp only [List.append_assoc, List.cons_append, List.nil_append]

/-- What was read is the beginning of what some items spell. -/
theorem Spelled.completed {state : State} {tokens : List Located}
    (spelled : Spelled state tokens) : ∃ items more, spell items = tokens ++ more := by
  cases spelled with
  | @mk mode openings before pending enclosed items begun =>
      obtain ⟨last, rest, ended⟩ := begun.completed
      obtain ⟨all, more, whole⟩ := enclosed.closed (items ++ last)
      refine ⟨all, rest ++ more, ?_⟩
      rw [whole, spell_append, ended]
      simp only [List.append_assoc]

/-- The reader goes along with exactly the beginnings of what items spell. -/
theorem viable_iff_steps (tokens : List Located) :
    Viable (tokens.map Located.token) ↔ ∃ state, steps .start tokens = some state := by
  constructor
  · rintro ⟨items, more, whole⟩
    obtain ⟨front, back, split, same, _⟩ := List.map_eq_append_iff.1 whole
    obtain ⟨last, stepped, _⟩ := steps_spell (.item .empty []) items
    rw [split, steps_append] at stepped
    obtain ⟨middle, reached, _⟩ := Option.bind_eq_some_iff.1 stepped
    obtain ⟨state, stepped, _⟩ := steps_of_same_tokens same reached
    exact ⟨state, stepped⟩
  · rintro ⟨state, stepped⟩
    obtain ⟨items, more, whole⟩ := (spelled_start.steps stepped).completed
    rw [List.nil_append] at whole
    exact ⟨items, more.map Located.token, by rw [whole, List.map_append]⟩

/-- Whether tokens begin a theme is told by a run over them. -/
instance (tokens : List Token) : Decidable (Viable tokens) :=
  decidable_of_iff ((steps .start (tokens.map fun token => ⟨token, nowhere⟩)).isSome = true) (by
    have same :
        (tokens.map fun token => (⟨token, nowhere⟩ : Located)).map Located.token = tokens := by
      rw [List.map_map]
      exact List.map_id tokens
    rw [Option.isSome_iff_exists, ← viable_iff_steps, same])

/-! ## Where a run fails -/

/-- A run fails at the first token that does not go on, or at the end where the source may not
end. -/
theorem run_eq_error {size : Nat} {tokens : List Located} {error : SyntaxError} :
    ∀ {state : State} {reached : Nat}, run size state reached tokens = .error error →
      (∃ before located after middle, tokens = before ++ located :: after ∧
        steps state before = some middle ∧ middle.step located = none ∧
        error = ⟨some located.token, located.span, middle.expected⟩) ∨
      (∃ last stop, steps state tokens = some last ∧
        (stop = reached ∨ ∃ located ∈ tokens, stop = located.span.stop) ∧
        error = ⟨none, ⟨stop, size⟩, last.expected⟩) := by
  induction tokens with
  | nil =>
      intro state reached failed
      rw [run] at failed
      cases ended : state.theme? with
      | some theme =>
          rw [ended] at failed
          cases failed
      | none =>
          rw [ended] at failed
          cases failed
          exact .inr ⟨state, reached, rfl, .inl rfl, rfl⟩
  | cons located rest ih =>
      intro state reached failed
      rw [run] at failed
      cases stepped : state.step located with
      | none =>
          rw [stepped] at failed
          cases failed
          exact .inl ⟨[], located, rest, state, rfl, rfl, stepped, rfl⟩
      | some next =>
          rw [stepped] at failed
          rcases ih failed with ⟨before, offending, after, middle, split, gone, stuck, same⟩ |
            ⟨last, stop, gone, told, same⟩
          · refine .inl ⟨located :: before, offending, after, middle, ?_, ?_, stuck, same⟩
            · rw [split, List.cons_append]
            · rw [steps, stepped]
              exact gone
          · refine .inr ⟨last, stop, ?_, .inr ?_, same⟩
            · rw [steps, stepped]
              exact gone
            · rcases told with told | ⟨other, among, told⟩
              · exact ⟨located, List.mem_cons_self, told⟩
              · exact ⟨other, List.mem_cons_of_mem located among, told⟩

end Reader

open Reader

theorem Viable.front {first second : List Located}
    (viable : Viable ((first ++ second).map Located.token)) :
    Viable (first.map Located.token) := by
  obtain ⟨items, more, whole⟩ := viable
  rw [List.map_append, List.append_assoc] at whole
  exact ⟨items, _, whole⟩

/-- There is one first offending token at most. -/
theorem FirstOffending.unique {tokens : List Located} {index other : Nat} {located found : Located}
    (first : FirstOffending tokens index located) (second : FirstOffending tokens other found) :
    index = other ∧ located = found := by
  have same : index = other := by
    rcases Nat.lt_trichotomy index other with before | same | behind
    · exact absurd (second.least index before) first.offends
    · exact same
    · exact absurd (first.least other behind) second.offends
  subst same
  exact ⟨rfl, Option.some.inj (first.found.symm.trans second.found)⟩

/-- The token behind which the reader does not go on is the first offending one. -/
theorem firstOffending_of_stuck {before after : List Located} {located : Located} {middle : State}
    (gone : steps .start before = some middle) (stuck : middle.step located = none) :
    FirstOffending (before ++ located :: after) before.length located where
  found := by rw [List.getElem?_append_right (Nat.le_refl _), Nat.sub_self]; rfl
  offends := by
    have front : (before ++ located :: after).take (before.length + 1) = before ++ [located] := by
      rw [List.take_append, List.take_of_length_le (Nat.le_succ _), Nat.add_sub_cancel_left]
      rfl
    rw [front, viable_iff_steps]
    rintro ⟨state, stepped⟩
    rw [steps_append, gone] at stepped
    change (middle.step located).bind _ = _ at stepped
    rw [stuck] at stepped
    cases stepped
  least := by
    intro earlier less
    have viable : Viable (before.map Located.token) := (viable_iff_steps before).2 ⟨middle, gone⟩
    rw [List.take_append_of_le_length less]
    rw [← List.take_append_drop (earlier + 1) before] at viable
    exact viable.front

/-- Where every token goes on, none is offending. -/
theorem FirstOffending.not_viable {tokens : List Located} {index : Nat} {located : Located}
    (first : FirstOffending tokens index located) : ¬ Viable (tokens.map Located.token) := by
  intro viable
  rw [← List.take_append_drop (index + 1) tokens] at viable
  exact first.offends viable.front

/-- A token of a source ends inside of it. -/
theorem token_stop_le {source : String} {located : Located}
    (among : located ∈ (lex source).tokens) :
    located.span.start ≤ located.span.stop ∧ located.span.stop ≤ source.utf8ByteSize := by
  obtain ⟨text, after, stands, formed, _⟩ := stands_of_mem_tokens among
  rw [← byteCount_toList]
  exact ⟨Nat.le_of_lt (stands.start_lt_stop formed.ne_nil), stands.stop_le⟩

/-- A source that is no theme is refused at its first offending token, or at its end if there is
none, and the place that is told lies in the source. -/
theorem refused_at_first_offending (source : String)
    (refused : ∀ theme, parseTheme source ≠ .ok theme) :
    ∃ error, parseTheme source = .error error ∧
      (∀ index located, FirstOffending (lex source).tokens index located →
        error.found = some located.token ∧
        error.message = "Unexpected " ++ located.token.describe ∧ error.span = located.span) ∧
      ((¬ ∃ index located, FirstOffending (lex source).tokens index located) →
        error.found = none ∧ error.message = "Unexpected end of input") ∧
      error.span.start ≤ error.span.stop ∧ error.span.stop ≤ source.utf8ByteSize := by
  cases failed : parseTheme source with
  | ok theme => exact absurd failed (refused theme)
  | error error =>
      refine ⟨error, rfl, ?_⟩
      rcases run_eq_error failed with ⟨before, located, after, middle, split, gone, stuck, rfl⟩ |
        ⟨last, stop, gone, told, rfl⟩
      · have first : FirstOffending (lex source).tokens before.length located := by
          rw [split]
          exact firstOffending_of_stuck gone stuck
        refine ⟨?_, ?_, token_stop_le (List.mem_of_getElem? first.found)⟩
        · intro index other offending
          obtain ⟨_, rfl⟩ := first.unique offending
          exact ⟨rfl, rfl, rfl⟩
        · intro none
          exact absurd ⟨_, _, first⟩ none
      · refine ⟨?_, fun _ => ⟨rfl, rfl⟩, ?_, Nat.le_of_eq (byteCount_toList source)⟩
        · intro index other offending
          exact absurd ((viable_iff_steps _).2 ⟨last, gone⟩) offending.not_viable
        · rcases told with rfl | ⟨other, among, rfl⟩
          · exact Nat.zero_le _
          · change other.span.stop ≤ byteCount source.toList
            rw [byteCount_toList]
            exact (token_stop_le among).2

theorem refused_label_and_unfinished_property :
    (∃ error, parseTheme "+ label \x7b text = \x7d" = .error error ∧
      error.message = "Unexpected '\x7d'" ∧ error.span = ⟨17, 18⟩) ∧
    ∃ error, parseTheme "left = " = .error error ∧ error.message = "Unexpected end of input" := by
  have refused (source : String) (none : (parseTheme source).toOption.isNone = true) :
      ∀ theme, parseTheme source ≠ .ok theme := by
    intro theme accepted
    rw [accepted] at none
    cases none
  constructor
  · obtain ⟨error, failed, atFirst, _⟩ := refused_at_first_offending "+ label \x7b text = \x7d"
      (refused _ (by decide +kernel))
    have first : FirstOffending (lex "+ label \x7b text = \x7d").tokens 5 ⟨.braceClose, ⟨17, 18⟩⟩ :=
      ⟨by decide +kernel, by decide +kernel, by decide +kernel⟩
    obtain ⟨_, message, span⟩ := atFirst 5 _ first
    exact ⟨error, failed, message, span⟩
  · obtain ⟨error, failed, _, atEnd, _⟩ := refused_at_first_offending "left = "
      (refused _ (by decide +kernel))
    have viable : Viable ((lex "left = ").tokens.map Located.token) := by decide +kernel
    have none : ¬ ∃ index located, FirstOffending (lex "left = ").tokens index located := by
      rintro ⟨index, located, first⟩
      exact first.not_viable viable
    exact ⟨error, failed, (atEnd none).2⟩

end BootTheme

import BootTheme.Proofs.Theme.Outline
import BootTheme.Proofs.Theme.ReaderRun

/-!
# Reading without places

The reader looks at tokens and never at their places, so without places it goes the same
way, and the outline of a theme depends on its tokens alone.
-/

namespace BootTheme

/-- A token without its place. -/
def Located.placeless (located : Located) : Located := ⟨located.token, nowhere⟩

namespace Reader

/-- The beginning of a property without its place. -/
def Begun.placeless (begun : Begun) : Begun := ⟨begun.name, 0⟩

/-- A mode without places. -/
def Mode.placeless : Mode → Mode
  | .item => .item
  | .named begun => .named begun.placeless
  | .separated begun => .separated begun.placeless
  | .negated begun => .negated begun.placeless
  | .amount begun value _ => .amount begun.placeless value 0
  | .percentage begun value _ => .percentage begun.placeless value 0
  | .undecided begun value _ _ => .undecided begun.placeless value 0 0
  | .lessened begun value => .lessened begun.placeless value
  | .plus _ => .plus 0
  | .kind _ name => .kind 0 name

/-- A block without places. -/
def Block.placeless (block : Block) : Block :=
  ⟨block.properties.map (Property.outline id), block.components.map (Component.outline id)⟩

/-- An open component without its place. -/
def Opening.placeless (opening : Opening) : Opening :=
  ⟨opening.kind, 0, opening.around.placeless⟩

/-- A state without places. -/
def State.placeless (state : State) : State :=
  ⟨state.mode.placeless, state.block.placeless, state.openings.map Opening.placeless⟩

theorem placeless_item (state : State) (located : Located) :
    state.placeless.item located.placeless = (state.item located).map State.placeless := by
  obtain ⟨mode, block, openings⟩ := state
  obtain ⟨token, span⟩ := located
  cases token with
  | braceClose =>
      cases openings with
      | nil => rfl
      | cons opening outer =>
          have closed : (Component.mk opening.kind block.properties.reverse
              block.components.reverse ⟨opening.start, span.stop⟩).outline id =
              .mk opening.kind (block.properties.map (Property.outline id)).reverse
                (block.components.map (Component.outline id)).reverse nowhere := by
            rw [Component.outline, outlines_eq_map, List.map_reverse, List.map_reverse]
          exact congrArg (fun component => some (State.mk .item
            (opening.placeless.around.addComponent component) (outer.map Opening.placeless)))
            closed.symm
  | _ => rfl

/-- Without places the reader takes the same step. -/
theorem placeless_step (state : State) (located : Located) :
    state.placeless.step located.placeless = (state.step located).map State.placeless := by
  obtain ⟨mode, block, openings⟩ := state
  obtain ⟨token, span⟩ := located
  cases mode with
  | item => exact placeless_item _ _
  | amount begun value stop =>
      have finished := placeless_item (State.finish ⟨.amount begun value stop, block, openings⟩
        begun (.length (.absolute value)) stop) ⟨token, span⟩
      cases token with
      | percent => rfl
      | _ => exact finished
  | percentage begun value stop =>
      have finished := placeless_item (State.finish ⟨.percentage begun value stop, block, openings⟩
        begun (.length (.relative value)) stop) ⟨token, span⟩
      cases token with
      | plus => rfl
      | minus => rfl
      | _ => exact finished
  | _ => cases token <;> rfl

theorem placeless_steps (state : State) (tokens : List Located) :
    steps state.placeless (tokens.map Located.placeless) =
      (steps state tokens).map State.placeless := by
  induction tokens generalizing state with
  | nil => rfl
  | cons located rest ih =>
      rw [List.map_cons, steps, steps, placeless_step]
      cases state.step located with
      | none => rfl
      | some next => exact ih next

/-- Along the same tokens the reader goes the same way. -/
theorem steps_of_same_tokens {first second : List Located} {last : State}
    (same : first.map Located.token = second.map Located.token)
    (stepped : steps .start first = some last) :
    ∃ final, steps .start second = some final ∧ final.placeless = last.placeless := by
  have placeless (tokens : List Located) : tokens.map Located.placeless =
      (tokens.map Located.token).map fun token => ⟨token, nowhere⟩ := by
    rw [List.map_map]
    rfl
  have shared := placeless_steps .start first
  rw [placeless, same, ← placeless, placeless_steps, stepped] at shared
  exact Option.map_eq_some_iff.1 shared

theorem placeless_theme? (state : State) :
    state.placeless.theme? = state.theme?.map (Theme.outline id) := by
  have whole (block : Block) (openings : List Opening) :
      State.theme? ⟨.item, block.placeless, openings.map Opening.placeless⟩ =
        (State.theme? ⟨.item, block, openings⟩).map (Theme.outline id) := by
    cases openings with
    | nil =>
        change some (Theme.mk _ _) = some (Theme.mk _ _)
        rw [outlines_eq_map, List.map_reverse, List.map_reverse]
        rfl
    | cons opening outer => rfl
  obtain ⟨mode, block, openings⟩ := state
  cases mode with
  | item => exact whole block openings
  | amount begun value stop =>
      exact whole (block.addProperty (begun.property (.length (.absolute value)) stop)) openings
  | percentage begun value stop =>
      exact whole (block.addProperty (begun.property (.length (.relative value)) stop)) openings
  | _ => rfl

end Reader

open Reader

/-- Sources with the same tokens have themes with the same outline. -/
theorem readTheme_outline {size : Nat} (other : Nat) {first second : List Located} {theme : Theme}
    (same : first.map Located.token = second.map Located.token)
    (read : readTheme size first = .ok theme) :
    ∃ again, readTheme other second = .ok again ∧ again.outline id = theme.outline id := by
  obtain ⟨last, stepped, ended⟩ := (run_eq_ok_iff size first theme .start 0).1 read
  obtain ⟨final, steppedToo, sameLast⟩ := steps_of_same_tokens same stepped
  have themes := placeless_theme? final
  rw [sameLast, placeless_theme?, ended] at themes
  obtain ⟨again, endedToo, outlines⟩ := Option.map_eq_some_iff.1 themes.symm
  exact ⟨again, (run_eq_ok_iff other second again .start 0).2 ⟨final, steppedToo, endedToo⟩,
    outlines⟩

end BootTheme

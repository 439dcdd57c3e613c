import BootTheme.Theme.Piece
import BootTheme.Theme.Syntax

/-!
# Reading a theme from its tokens

Tokens are taken one after the other. Between two tokens the reader knows the
components that are open and what it has begun to read; the next token either
goes on from there or is the first offending token of the source. A number and a
percentage can end a property or go on, so they stay open until the next token:
a plus sign after a percentage is an offset when a number follows, and otherwise
starts the next component.
-/

namespace BootTheme

/-- What a reader could have gone on with. -/
inductive Expectation where
  | name
  | value
  | percent
  | plus
  | minus
  | colon
  | equals
  | braceOpen
  | braceClose
  | endOfInput
deriving DecidableEq, Repr

/-- Why a source is no theme. No token is found at the end of the source. -/
structure SyntaxError where
  found : Option Token
  span : Span
  expected : List Expectation
deriving DecidableEq, Repr

namespace Expectation

/-- How a message names an expectation. -/
def text : Expectation → String
  | name => "name"
  | value => "value"
  | percent => Token.percent.describe
  | plus => Token.plus.describe
  | minus => Token.minus.describe
  | colon => Token.colon.describe
  | equals => Token.equals.describe
  | braceOpen => Token.braceOpen.describe
  | braceClose => Token.braceClose.describe
  | endOfInput => "end of input"

end Expectation

namespace SyntaxError

/-- What is said about the error. -/
def message (error : SyntaxError) : String :=
  match error.found with
  | some token => "Unexpected " ++ token.describe
  | none => "Unexpected end of input"

/-- The error on one line. -/
def line (error : SyntaxError) : String :=
  "Parse error at " ++ error.span.text ++ ": " ++ error.message

end SyntaxError

namespace Reader

/-- The beginning of a property: its name and where it starts. -/
structure Begun where
  name : String
  start : Nat
deriving DecidableEq, Repr

/-- What the reader has begun to read. -/
inductive Mode where
  /-- Between properties and components. -/
  | item
  /-- After the name of a property. -/
  | named (begun : Begun)
  /-- After the separator. -/
  | separated (begun : Begun)
  /-- After the sign of a number. -/
  | negated (begun : Begun)
  /-- After a number. -/
  | amount (begun : Begun) (value : Float) (stop : Nat)
  /-- After a percentage. -/
  | percentage (begun : Begun) (value : Float) (stop : Nat)
  /-- After a percentage and a plus sign at the given byte. -/
  | undecided (begun : Begun) (value : Float) (stop plus : Nat)
  /-- After a percentage and a minus sign. -/
  | lessened (begun : Begun) (value : Float)
  /-- After the plus sign of a component. -/
  | plus (start : Nat)
  /-- After the kind of a component. -/
  | kind (start : Nat) (kind : String)
deriving DecidableEq, Repr

/-- What was read of a block, latest first. -/
structure Block where
  properties : List Property
  components : List Component
deriving Repr

/-- An open component: its kind, where it starts, and the block around it. -/
structure Opening where
  kind : String
  start : Nat
  around : Block
deriving Repr

/-- Everything that was read so far. -/
structure State where
  mode : Mode
  block : Block
  openings : List Opening
deriving Repr

namespace Block

/-- A block of nothing. -/
def empty : Block := ⟨[], []⟩

/-- The block with one more property. -/
def addProperty (block : Block) (property : Property) : Block :=
  { block with properties := property :: block.properties }

/-- The block with one more component. -/
def addComponent (block : Block) (component : Component) : Block :=
  { block with components := component :: block.components }

end Block

/-- Nothing was read. -/
def State.start : State := ⟨.item, .empty, []⟩

/-- What may follow where a property or a component may start. -/
def itemExpected (inside : Bool) : List Expectation :=
  [.name, .plus, if inside then .braceClose else .endOfInput]

/-- What may follow in a mode. A number after a sign is not named. -/
def Mode.expected (inside : Bool) : Mode → List Expectation
  | .item => itemExpected inside
  | .named _ => [.colon, .equals]
  | .separated _ => [.value]
  | .negated _ => []
  | .amount _ _ _ => .percent :: itemExpected inside
  | .percentage _ _ _ =>
      [.plus, .minus, .name, if inside then .braceClose else .endOfInput]
  | .undecided _ _ _ _ => [.name]
  | .lessened _ _ => []
  | .plus _ => [.name]
  | .kind _ _ => [.braceOpen]

/-- The property that ends at a byte. -/
def Begun.property (begun : Begun) (value : Value) (stop : Nat) : Property :=
  ⟨begun.name, value, ⟨begun.start, stop⟩⟩

namespace State

/-- The state after a finished property. -/
def finish (state : State) (begun : Begun) (value : Value) (stop : Nat) : State :=
  { state with mode := .item, block := state.block.addProperty (begun.property value stop) }

/-- The state in another mode. -/
def turn (state : State) (mode : Mode) : State := { state with mode }

/-- A token where a property or a component may start. -/
def item (state : State) (located : Located) : Option State :=
  match located.token with
  | .ident name => some (state.turn (.named ⟨name, located.span.start⟩))
  | .plus => some (state.turn (.plus located.span.start))
  | .braceClose =>
      match state.openings with
      | [] => none
      | opening :: outer =>
          let component := Component.mk opening.kind state.block.properties.reverse
            state.block.components.reverse ⟨opening.start, located.span.stop⟩
          some ⟨.item, opening.around.addComponent component, outer⟩
  | _ => none

/-- A token where a value must stand. -/
def value (state : State) (begun : Begun) (located : Located) : Option State :=
  match located.token with
  | .string text => some (state.finish begun (.string text) located.span.stop)
  | .ident name => some (state.finish begun (.string name) located.span.stop)
  | .bool value => some (state.finish begun (.bool value) located.span.stop)
  | .minus => some (state.turn (.negated begun))
  | .number value => some (state.turn (.amount begun value located.span.stop))
  | _ => none

/-- A token where the block of a component must start. -/
def opened (state : State) (kind : String) (start : Nat) (located : Located) : Option State :=
  match located.token with
  | .braceOpen => some ⟨.item, .empty, ⟨kind, start, state.block⟩ :: state.openings⟩
  | _ => none

/-- The next token, if it goes on from here. -/
def step (state : State) (located : Located) : Option State :=
  match state.mode, located.token with
  | .item, _ => state.item located
  | .named begun, .colon => some (state.turn (.separated begun))
  | .named begun, .equals => some (state.turn (.separated begun))
  | .named _, _ => none
  | .separated begun, _ => state.value begun located
  | .negated begun, .number value => some (state.turn (.amount begun (-value) located.span.stop))
  | .negated _, _ => none
  | .amount begun value _, .percent =>
      some (state.turn (.percentage begun value located.span.stop))
  | .amount begun value stop, _ =>
      (state.finish begun (.length (.absolute value)) stop).item located
  | .percentage begun value stop, .plus =>
      some (state.turn (.undecided begun value stop located.span.start))
  | .percentage begun value _, .minus => some (state.turn (.lessened begun value))
  | .percentage begun value stop, _ =>
      (state.finish begun (.length (.relative value)) stop).item located
  | .undecided begun value _ _, .number offset =>
      some (state.finish begun (.length (.combined value .plus offset)) located.span.stop)
  | .undecided begun value stop plus, .ident kind =>
      some ((state.finish begun (.length (.relative value)) stop).turn (.kind plus kind))
  | .undecided _ _ _ _, _ => none
  | .lessened begun value, .number offset =>
      some (state.finish begun (.length (.combined value .minus offset)) located.span.stop)
  | .lessened _ _, _ => none
  | .plus start, .ident kind => some (state.turn (.kind start kind))
  | .plus _, _ => none
  | .kind start kind, _ => state.opened kind start located

/-- What may follow in a state. -/
def expected (state : State) : List Expectation :=
  state.mode.expected (!state.openings.isEmpty)

/-- The theme that was read, if the source may end here. -/
def theme? (state : State) : Option Theme :=
  let whole (state : State) : Option Theme :=
    match state.openings with
    | [] => some ⟨state.block.properties.reverse, state.block.components.reverse⟩
    | _ :: _ => none
  match state.mode with
  | .item => whole state
  | .amount begun value stop =>
      whole (state.finish begun (.length (.absolute value)) stop)
  | .percentage begun value stop =>
      whole (state.finish begun (.length (.relative value)) stop)
  | _ => none

end State

/-- The tokens of a source one after the other; the last token read ends at `reached`. -/
def run (size : Nat) (state : State) (reached : Nat) : List Located → Except SyntaxError Theme
  | [] =>
      match state.theme? with
      | some theme => .ok theme
      | none => .error ⟨none, ⟨reached, size⟩, state.expected⟩
  | located :: rest =>
      match state.step located with
      | some next => run size next located.span.stop rest
      | none => .error ⟨some located.token, located.span, state.expected⟩

end Reader

/-- The theme of a list of tokens from a source of so many bytes. -/
def readTheme (size : Nat) (tokens : List Located) : Except SyntaxError Theme :=
  Reader.run size .start 0 tokens

/-- The theme of a source. -/
def parseTheme (source : String) : Except SyntaxError Theme :=
  readTheme (byteCount source.toList) (lex source).tokens

end BootTheme

import Mathlib.Algebra.Ring.Nat

/-!
Contract: the control sequences of a terminal emulator.

Owns the parser of its input, which an escape brings back into step wherever it
is, and what the sequences do to the modes of the emulator.

Does not own what is on the screen.
-/

namespace Etr.Library

/-- What the emulator is told. -/
inductive TerminalOp where
  | print (byte : UInt8)
  | control (byte : UInt8)
  | escape (final : UInt8)
  /-- `CSI`, with the marker in front of its parameters; a parameter may be
  left out. -/
  | sequence (marker : Option UInt8) (params : List (Option Nat)) (final : UInt8)
deriving DecidableEq, Repr

/-! ## The parser -/

inductive ParserState where
  | ground
  | escape
  /-- In an escape with intermediate bytes. -/
  | intermediate
  /-- In a control sequence, with the parameters so far. -/
  | params (marker : Option UInt8) (before : List (Option Nat)) (current : Option Nat)
  /-- In a control sequence that means nothing. -/
  | ignored
  /-- In a string, such as a window title. -/
  | string
deriving DecidableEq, Repr

namespace ParserState

/-- One byte of the parameters. -/
def feedParams (marker : Option UInt8) (before : List (Option Nat)) (current : Option Nat)
    (byte : UInt8) : ParserState × Option TerminalOp :=
  if 0x30 ≤ byte ∧ byte ≤ 0x39 then
    (.params marker before (some (current.getD 0 * 10 + (byte.toNat - 0x30))), none)
  else if byte = 0x3b then
    (.params marker (before ++ [current]) none, none)
  else if 0x3c ≤ byte ∧ byte ≤ 0x3f then
    if marker = none ∧ before = [] ∧ current = none then (.params (some byte) [] none, none)
    else (.ignored, none)
  else if 0x40 ≤ byte ∧ byte ≤ 0x7e then
    (.ground, some (.sequence marker (before ++ [current]) byte))
  else if byte < 0x7f then
    (.ignored, none)
  else
    (.params marker before current, none)

/-- One byte of the input. An escape starts anew in every state, and a cancel
ends what there is. -/
def feed (state : ParserState) (byte : UInt8) : ParserState × Option TerminalOp :=
  if byte = 0x1b then
    (.escape, none)
  else if byte = 0x18 ∨ byte = 0x1a then
    (.ground, none)
  else
    match state with
    | .string => if byte = 0x07 then (.ground, none) else (.string, none)
    | .ground => (.ground, some (if byte < 0x20 then .control byte else .print byte))
    | .escape =>
        if byte < 0x20 then (.escape, some (.control byte))
        else if byte = 0x5b then (.params none [] none, none)
        else if byte = 0x5d ∨ byte = 0x50 ∨ byte = 0x58 ∨ byte = 0x5e ∨ byte = 0x5f then
          (.string, none)
        else if byte < 0x30 then (.intermediate, none)
        else (.ground, some (.escape byte))
    | .intermediate =>
        if byte < 0x20 then (.intermediate, some (.control byte))
        else if byte < 0x30 then (.intermediate, none)
        else (.ground, none)
    | .params marker before current =>
        if byte < 0x20 then (.params marker before current, some (.control byte))
        else feedParams marker before current byte
    | .ignored =>
        if byte < 0x20 then (.ignored, some (.control byte))
        else if 0x40 ≤ byte ∧ byte ≤ 0x7e then (.ground, none)
        else (.ignored, none)

/-- The state behind the bytes. -/
def after (state : ParserState) (bytes : List UInt8) : ParserState :=
  bytes.foldl (fun state byte => (state.feed byte).1) state

/-- What the bytes say. -/
def ops : ParserState → List UInt8 → List TerminalOp
  | _, [] => []
  | state, byte :: rest => (state.feed byte).2.toList ++ ops (state.feed byte).1 rest

end ParserState

/-! ## Modes -/

/-- What outlives the program that set it. -/
structure EmulatorModes where
  /-- The private modes, by their number. -/
  privateModes : Nat → Bool
  /-- The keypad sends application codes. -/
  keypad : Bool
  /-- There may be colours or other attributes. -/
  attributes : Bool
  /-- The scroll region may be a part of the screen. -/
  region : Bool

namespace EmulatorModes

/-- An emulator wraps lines and shows its cursor, and nothing else is set. -/
def initial : EmulatorModes where
  privateModes := fun mode => decide (mode = 7 ∨ mode = 25)
  keypad := false
  attributes := false
  region := false

def setPrivate (modes : EmulatorModes) (params : List (Option Nat)) (value : Bool) :
    EmulatorModes :=
  { modes with
    privateModes := fun mode => if some mode ∈ params then value else modes.privateModes mode }

/-- Every parameter is zero, or left out. -/
def allDefault (params : List (Option Nat)) : Bool :=
  params.all fun param => param.getD 0 == 0

def apply (modes : EmulatorModes) : TerminalOp → EmulatorModes
  | .sequence (some 0x3f) params 0x68 => modes.setPrivate params true
  | .sequence (some 0x3f) params 0x6c => modes.setPrivate params false
  | .sequence none params 0x6d => { modes with attributes := !allDefault params }
  | .sequence none params 0x72 => { modes with region := !allDefault params }
  | .escape 0x3d => { modes with keypad := true }
  | .escape 0x3e => { modes with keypad := false }
  | .escape 0x63 => initial
  | _ => modes

/-- The modes behind a stretch of output. -/
def showing (modes : EmulatorModes) (ops : List TerminalOp) : EmulatorModes :=
  ops.foldl apply modes

end EmulatorModes

end Etr.Library

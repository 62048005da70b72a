import Mathlib.Algebra.Ring.Nat

/-!
Contract: the request a client sends to `etrs` over SSH, and its two parsers.

Owns the request, the input checks and the writer of `bootstrap_ssh` in
`src/bin/etr.rs`, and the header split, the line reader and the line
classification of `run_server` in `src/bin/etrs.rs`.

Does not own the reply. The pipe is modeled as text: both sides use UTF-8, in
which the separators are single bytes of their own.
-/

namespace Etr.Bootstrap

/-- A string, character by character. -/
abbrev Text := List Char

/-! ## Address-family preference -/

inductive AddrPref where
  | auto
  | ipv4
  | ipv6
deriving DecidableEq, Repr

/-- Unicode `White_Space`, as `char::is_whitespace` has it. -/
def isWhitespace (c : Char) : Bool :=
  let code := c.toNat
  (0x9 ≤ code && code ≤ 0xD) || code == 0x20 || code == 0x85 || code == 0xA0 ||
    code == 0x1680 || (0x2000 ≤ code && code ≤ 0x200A) || code == 0x2028 || code == 0x2029 ||
    code == 0x202F || code == 0x205F || code == 0x3000

def trimEnd (text : Text) : Text :=
  (text.reverse.dropWhile isWhitespace).reverse

def trim (text : Text) : Text :=
  trimEnd (text.dropWhile isWhitespace)

namespace AddrPref

/-- The value of the `ETRPREFER:` line, if any. -/
def wire : AddrPref → Option Text
  | .auto => none
  | .ipv4 => some ['4']
  | .ipv6 => some ['6']

/-- `from_wire`; unknown values are `auto`. -/
def fromWire (value : Text) : AddrPref :=
  if trim value = ['4'] then .ipv4 else if trim value = ['6'] then .ipv6 else .auto

end AddrPref

/-! ## Hexadecimal -/

/-- One digit of `{b:02x}`. -/
def hexDigit (digit : Nat) : Char :=
  if digit < 10 then Char.ofNat ('0'.toNat + digit) else Char.ofNat ('a'.toNat + (digit - 10))

def hexEncode (bytes : List UInt8) : Text :=
  bytes.flatMap fun byte => [hexDigit (byte.toNat / 16), hexDigit (byte.toNat % 16)]

/-- `char::to_digit(16)`. -/
def hexValue (c : Char) : Option Nat :=
  if '0' ≤ c ∧ c ≤ '9' then some (c.toNat - '0'.toNat)
  else if 'a' ≤ c ∧ c ≤ 'f' then some (c.toNat - 'a'.toNat + 10)
  else if 'A' ≤ c ∧ c ≤ 'F' then some (c.toNat - 'A'.toNat + 10)
  else none

/-- `u8::from_str_radix(_, 16)` on two characters; a plus sign is accepted in
front of a digit. -/
def hexPair (high low : Char) : Option UInt8 :=
  if high = '+' then
    (hexValue low).map UInt8.ofNat
  else
    (hexValue high).bind fun upper =>
      (hexValue low).map fun lower => UInt8.ofNat (upper * 16 + lower)

def hexDecode : Text → Option (List UInt8)
  | [] => some []
  | [_] => none
  | high :: low :: rest =>
      (hexPair high low).bind fun byte => (hexDecode rest).map fun bytes => byte :: bytes

/-! ## The request -/

structure Request where
  sessionId : List UInt8
  passkey : Text
  term : Text
  envVars : List Text
  x11Enabled : Bool
  addrPref : AddrPref
  remoteCommand : Option Text
deriving DecidableEq, Repr

/-! ## Client -/

/-- The errors of `validate_bootstrap_inputs`. -/
inductive InvalidInput where
  | sshTarget (target : Text)
  | term
  | envVar
  | remoteCommand
deriving DecidableEq, Repr

/-- Their texts; `debug` is the `{:?}` format of a string. -/
def InvalidInput.message (debug : Text → String) : InvalidInput → String
  | .sshTarget target =>
      "invalid SSH target " ++ debug target ++ ": target must not be empty or start with '-'"
  | .term => "TERM contains invalid control character (newline or NUL)"
  | .envVar => "environment variable contains invalid control character (newline or NUL)"
  | .remoteCommand => "remote command must not contain raw newlines or NUL bytes"

/-- `contains(['\n', '\r', '\0'])`. -/
def containsControl (text : Text) : Bool :=
  text.any fun c => c == '\n' || c == '\r' || c == Char.ofNat 0

def validateBootstrapInputs (target term : Text) (envVars : List Text)
    (remoteCommand : Option Text) : Except InvalidInput Unit :=
  if target.isEmpty || target.head? == some '-' then .error (.sshTarget target)
  else if containsControl term then .error .term
  else if envVars.any containsControl then .error .envVar
  else if remoteCommand.any containsControl then .error .remoteCommand
  else .ok ()

def cmdPrefix : Text := ['E', 'T', 'R', 'C', 'M', 'D', ':']

def x11Prefix : Text := ['E', 'T', 'R', 'X', '1', '1', ':']

def preferPrefix : Text := ['E', 'T', 'R', 'P', 'R', 'E', 'F', 'E', 'R', ':']

/-- First line: identity, secret and terminal type. -/
def headerLine (request : Request) : Text :=
  hexEncode request.sessionId ++ '/' :: (request.passkey ++ '/' :: request.term)

/-- The lines behind the first, in the order they are written. -/
def requestLines (request : Request) : List Text :=
  request.envVars ++
    (if request.x11Enabled then [x11Prefix ++ ['t', 'r', 'u', 'e']] else []) ++
    (request.addrPref.wire.map fun value => preferPrefix ++ value).toList ++
    (request.remoteCommand.map fun command => cmdPrefix ++ command).toList

/-- `{line}\n` for each line. -/
def writeLines (lines : List Text) : Text :=
  lines.flatMap fun line => line ++ ['\n']

/-- What `bootstrap_ssh` writes to the pipe, if its inputs are valid. -/
def bootstrapSsh (target : Text) (request : Request) : Except InvalidInput Text :=
  (validateBootstrapInputs target request.term request.envVars request.remoteCommand).map
    fun _ => writeLines (headerLine request :: requestLines request)

/-! ## Server -/

inductive BootstrapLine where
  | env (entry : Text)
  | command (command : Text)
  | x11
  | prefer (pref : AddrPref)
deriving DecidableEq, Repr

def stripPrefix (front text : Text) : Option Text :=
  if front.isPrefixOf text then some (text.drop front.length) else none

def parseBootstrapLine (line : Text) : BootstrapLine :=
  match stripPrefix cmdPrefix line with
  | some command => .command command
  | none =>
      if x11Prefix.isPrefixOf line then
        .x11
      else
        match stripPrefix preferPrefix line with
        | some value => .prefer (AddrPref.fromWire value)
        | none => .env line

/-- A line without the carriage return in front of its newline. -/
def stripCarriageReturn (line : Text) : Text :=
  if line.getLast? = some '\r' then line.dropLast else line

/-- `BufRead::lines`, with the characters of the current line so far. -/
def linesFrom (current : Text) : Text → List Text
  | [] => if current.isEmpty then [] else [current]
  | c :: rest =>
      if c = '\n' then
        stripCarriageReturn current :: linesFrom [] rest
      else
        linesFrom (current ++ [c]) rest

/-- `read_line`: up to and including the first newline, and the rest. -/
def readLine : Text → Text × Text
  | [] => ([], [])
  | c :: rest =>
      if c = '\n' then
        (['\n'], rest)
      else
        (c :: (readLine rest).1, (readLine rest).2)

/-- One turn of the loop over the extra lines. -/
def applyLine (request : Request) (line : Text) : Request :=
  match parseBootstrapLine line with
  | .command command => { request with remoteCommand := some command }
  | .x11 => { request with x11Enabled := true }
  | .prefer pref => { request with addrPref := pref }
  | .env entry => { request with envVars := request.envVars ++ [entry] }

/-- The loop over the extra lines; an empty line ends it. -/
def applyLines : Request → List Text → Request
  | request, [] => request
  | request, line :: rest =>
      if line.isEmpty then request else applyLines (applyLine request line) rest

/-- The bootstrap parser of `run_server`, with its error texts. -/
def parseRequest (input : Text) : Except String Request :=
  match (trim (readLine input).1).splitOn '/' with
  | sessionIdHex :: passkey :: term :: _ =>
      match (hexDecode sessionIdHex).filter fun bytes => bytes.length == 16 with
      | none => .error "invalid session_id hex"
      | some sessionId =>
          .ok (applyLines
            { sessionId := sessionId
              passkey := passkey
              term := term
              envVars := []
              x11Enabled := false
              addrPref := .auto
              remoteCommand := none }
            (linesFrom [] (readLine input).2))
  | _ => .error "Expected SESSION_ID_HEX/PASSKEY/TERM on stdin"

end Etr.Bootstrap

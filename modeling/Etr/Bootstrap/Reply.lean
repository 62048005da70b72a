import Etr.Bootstrap.Fields
import Etr.Forward.Spec

/-!
Contract: the reply of `etrs` on its standard output, and the client's scan.

Owns the line `run_server` prints in `src/bin/etrs.rs`, the scan of
`bootstrap_ssh` in `src/bin/etr.rs` with its error text, and the recovery of
the reply from between other lines.

Does not own the bytes of the output: the scan runs on their lossy reading as
text.
-/

namespace Etr.Bootstrap

open Etr.Forward

/-! ## Server -/

/-- `PORT `. -/
def portPrefix : Text := ['P', 'O', 'R', 'T', ' ']

/-- `CERT`. -/
def certWord : Text := ['C', 'E', 'R', 'T']

/-- `PORT {actual_port} CERT {cert_hex}`. -/
def replyLine (port : UInt16) (cert : List UInt8) : Text :=
  portPrefix ++ (Nat.toDigits 10 port.toNat ++ ' ' :: (certWord ++ ' ' :: hexEncode cert))

/-! ## Client -/

/-- Why the scan of `bootstrap_ssh` gives no reply. -/
inductive ReplyFailure where
  | panicked (panic : SlicePanic)
  | notReported (stdout : Text)
deriving DecidableEq, Repr

/-- The text of the error, if it is one; `debug` is the `{:?}` format of a
string. -/
def ReplyFailure.message (debug : Text → String) : ReplyFailure → Option String
  | .panicked _ => none
  | .notReported stdout =>
      some ("etrs did not report PORT/CERT (stdout: " ++ debug stdout ++ ")")

/-- The body of the scan's loop: the reply, if this line is one. -/
def parseReplyLine (line : Text) : Except SlicePanic (Option (UInt16 × List UInt8)) :=
  match stripPrefix portPrefix (trim line) with
  | none => .ok none
  | some rest =>
      match splitWhitespace rest with
      | first :: second :: third :: _ =>
          if second = certWord then
            match parsePort first with
            | none => .ok none
            | some port =>
                (hexDecodeBytes third).map fun cert => cert.map fun bytes => (port, bytes)
          else
            .ok none
      | _ => .ok none

/-- The reply parser of `bootstrap_ssh`. `lines` of a string and of a reader
split alike. -/
def scanReply (stdout : Text) : Except ReplyFailure (UInt16 × List UInt8) :=
  match firstLine parseReplyLine (linesFrom [] stdout) with
  | .error panic => .error (.panicked panic)
  | .ok none => .error (.notReported (trim stdout))
  | .ok (some reply) => .ok reply

/-! ## Printed lines -/

/-- How a line ends. -/
inductive LineEnding where
  | lf
  | crlf
deriving DecidableEq, Repr

/-- What stands in front of the newline. -/
def LineEnding.front : LineEnding → Text
  | .lf => []
  | .crlf => ['\r']

/-- A line of the output, with its own ending. -/
structure PrintedLine where
  content : Text
  ending : LineEnding
  unbroken : '\n' ∉ content

/-- The line as it is printed. -/
def PrintedLine.text (line : PrintedLine) : Text :=
  line.content ++ line.ending.front ++ ['\n']

/-- The line as it is read. -/
def PrintedLine.read (line : PrintedLine) : Text :=
  stripCarriageReturn (line.content ++ line.ending.front)

/-- The lines of an output. -/
def printed (lines : List PrintedLine) : Text :=
  lines.flatMap PrintedLine.text

theorem newline_notMem_front (ending : LineEnding) : '\n' ∉ ending.front := by
  cases ending with
  | lf => decide
  | crlf => decide

/-- Printed lines are read one by one, whatever follows them. -/
theorem linesFrom_printed (lines : List PrintedLine) (rest : Text) :
    linesFrom [] (printed lines ++ rest) = lines.map PrintedLine.read ++ linesFrom [] rest := by
  induction lines with
  | nil => rfl
  | cons line lines inductionHypothesis =>
      have unbroken : '\n' ∉ line.content ++ line.ending.front := by
        rw [List.mem_append, not_or]
        exact ⟨line.unbroken, newline_notMem_front line.ending⟩
      rw [printed] at inductionHypothesis
      rw [printed, List.flatMap_cons, PrintedLine.text, List.append_assoc, List.append_assoc,
        List.singleton_append, linesFrom_append unbroken, inductionHypothesis, List.map_cons,
        List.cons_append, List.nil_append, PrintedLine.read]

/-- Text behind the last newline is a line of its own. -/
theorem linesFrom_unterminated {line : Text} (unbroken : '\n' ∉ line) {current : Text}
    (filled : current ++ line ≠ []) : linesFrom current line = [current ++ line] := by
  induction line generalizing current with
  | nil =>
      rw [List.append_nil] at filled ⊢
      rw [linesFrom, if_neg (by simpa using filled)]
  | cons c line inductionHypothesis =>
      rw [List.mem_cons, not_or] at unbroken
      rw [← List.singleton_append, ← List.append_assoc] at filled
      rw [linesFrom, if_neg (Ne.symm unbroken.1), inductionHypothesis unbroken.2 filled,
        List.append_assoc, List.singleton_append]

/-! ## White space around a line -/

/-- Only white space. -/
def Blank (text : Text) : Prop :=
  ∀ c ∈ text, isWhitespace c = true

instance (text : Text) : Decidable (Blank text) :=
  List.decidableBAll (fun c => isWhitespace c = true) text

theorem trim_blank_append {blank : Text} (isBlank : Blank blank) (text : Text) :
    trim (blank ++ text) = trim text := by
  rw [trim, List.dropWhile_append_of_pos isBlank, trim]

theorem trimEnd_append_blank {blank : Text} (isBlank : Blank blank) (text : Text) :
    trimEnd (text ++ blank) = trimEnd text := by
  have reversed : ∀ c ∈ blank.reverse, isWhitespace c = true := by
    intro c member
    exact isBlank c (List.mem_reverse.mp member)
  rw [trimEnd, List.reverse_append, List.dropWhile_append_of_pos reversed, trimEnd]

theorem trim_append_blank {blank : Text} (isBlank : Blank blank) (text : Text) :
    trim (text ++ blank) = trim text := by
  rw [trim, trim, List.dropWhile_append]
  split
  · rename_i allBlank
    rw [List.isEmpty_iff.mp allBlank, ← List.nil_append (blank.dropWhile isWhitespace)]
    apply trimEnd_append_blank
    intro c member
    exact isBlank c ((List.dropWhile_suffix _).subset member)
  · exact trimEnd_append_blank isBlank _

theorem exists_trimEnd_append (text : Text) :
    ∃ blank, Blank blank ∧ text = trimEnd text ++ blank := by
  refine ⟨(text.reverse.takeWhile isWhitespace).reverse, ?_, ?_⟩
  · intro c member
    exact List.mem_takeWhile_imp (List.mem_reverse.mp member)
  · rw [trimEnd, ← List.reverse_append, List.takeWhile_append_dropWhile, List.reverse_reverse]

theorem trimEnd_trimEnd (text : Text) : trimEnd (trimEnd text) = trimEnd text := by
  obtain ⟨blank, isBlank, whole⟩ := exists_trimEnd_append text
  have trimmed := trimEnd_append_blank isBlank (trimEnd text)
  rw [← whole] at trimmed
  exact trimmed.symm

theorem trim_trimEnd (text : Text) : trim (trimEnd text) = trim text := by
  obtain ⟨blank, isBlank, whole⟩ := exists_trimEnd_append text
  have trimmed := trim_append_blank isBlank (trimEnd text)
  rw [← whole] at trimmed
  exact trimmed.symm

theorem trimEnd_stripCarriageReturn (line : Text) :
    trimEnd (stripCarriageReturn line) = trimEnd line := by
  rw [stripCarriageReturn]
  split
  · rename_i last
    obtain ⟨front, rfl⟩ := List.getLast?_eq_some_iff.mp last
    have carriageReturn : Blank ['\r'] := by decide
    rw [List.dropLast_concat, trimEnd_append_blank carriageReturn]
  · rfl

/-- The line ending leaves no trace behind the trim. -/
theorem trim_read (line : PrintedLine) : trim line.read = trim line.content := by
  have carriageReturn : Blank ['\r'] := by
    intro c member
    rw [List.mem_singleton.mp member]
    decide
  have ending : Blank line.ending.front := by
    cases line.ending with
    | lf => exact List.forall_mem_nil _
    | crlf => exact carriageReturn
  rw [PrintedLine.read, stripCarriageReturn]
  split
  · rename_i last
    rcases List.getLast?_eq_some_iff.mp last with ⟨front, whole⟩
    rw [← trim_append_blank ending line.content, whole, List.dropLast_concat,
      trim_append_blank carriageReturn]
  · exact trim_append_blank ending _

/-! ## Recovery -/

theorem trim_replyLine (port : UInt16) {cert : List UInt8} (filled : cert ≠ []) :
    trim (replyLine port cert) = replyLine port cert := by
  have front : (replyLine port cert).dropWhile isWhitespace = replyLine port cert := by
    rw [replyLine, portPrefix, List.cons_append, List.dropWhile_cons,
      show isWhitespace 'P' = false by decide]
    rfl
  rw [trim, front, trimEnd_eq_self_iff]
  intro c last
  have word := isWord_hexEncode filled
  have split : replyLine port cert =
      (portPrefix ++ Nat.toDigits 10 port.toNat ++ ' ' :: certWord ++ [' ']) ++ hexEncode cert := by
    simp [replyLine]
  rw [split, List.getLast?_append, List.getLast?_eq_some_getLast word.nonempty, Option.some_or,
    Option.some.injEq] at last
  exact word.visible c (last ▸ List.getLast_mem word.nonempty)

theorem isWord_toDigits (number : Nat) : IsWord (Nat.toDigits 10 number) where
  nonempty := by simp
  visible := by
    intro c member
    have digit := Nat.isDigit_of_mem_toDigits (by decide) (by decide) member
    have bounds : 48 ≤ c.toNat ∧ c.toNat ≤ 57 := Char.isDigit_iff_toNat.mp digit
    simp [isWhitespace]
    omega

/-- The reply is read from its line. -/
theorem parseReplyLine_of_trim {line : Text} {port : UInt16} {cert : List UInt8}
    (filled : cert ≠ []) (reply : trim line = replyLine port cert) :
    parseReplyLine line = .ok (some (port, cert)) := by
  have space : isWhitespace ' ' = true := by decide
  have word : IsWord certWord := ⟨by decide, by simp [certWord, isWhitespace]⟩
  have stripped : stripPrefix portPrefix (replyLine port cert) =
      some (Nat.toDigits 10 port.toNat ++ ' ' :: (certWord ++ ' ' :: hexEncode cert)) := by
    simp [stripPrefix, replyLine]
  have words : splitWhitespace
      (Nat.toDigits 10 port.toNat ++ ' ' :: (certWord ++ ' ' :: hexEncode cert)) =
        [Nat.toDigits 10 port.toNat, certWord, hexEncode cert] := by
    rw [splitWhitespace_word_append (isWord_toDigits _) space,
      splitWhitespace_word_append word space, splitWhitespace_word (isWord_hexEncode filled)]
  rw [parseReplyLine, reply, stripped]
  simp only [words, if_true, parsePort_toDigits, hexDecodeBytes_hexEncode]
  rfl

/-- A line that does not start like a reply is passed over. -/
theorem parseReplyLine_of_quiet {line : Text} (quiet : ¬ portPrefix <+: trim line) :
    parseReplyLine line = .ok none := by
  simp [parseReplyLine, stripPrefix, quiet]

/-- A line that is the reply but for white space around it. -/
def PrintedLine.IsReply (line : PrintedLine) (port : UInt16) (cert : List UInt8) : Prop :=
  ∃ leading trailing, Blank leading ∧ Blank trailing ∧
    line.content = leading ++ replyLine port cert ++ trailing

theorem PrintedLine.IsReply.trim_content {line : PrintedLine} {port : UInt16} {cert : List UInt8}
    (filled : cert ≠ []) (reply : line.IsReply port cert) :
    trim line.content = replyLine port cert := by
  rcases reply with ⟨leading, trailing, before, behind, whole⟩
  rw [whole, trim_append_blank behind, trim_blank_append before, trim_replyLine port filled]

/-- **The client reads the port and the certificate that `etrs` printed, through
any lines that do not start with `PORT `, whatever their endings, and whatever
is printed behind the reply.** -/
theorem scanReply_recovers (earlier : List PrintedLine) (reply : PrintedLine) {port : UInt16}
    {cert : List UInt8} (filled : cert ≠ [])
    (quiet : ∀ line ∈ earlier, ¬ portPrefix <+: trim line.content)
    (isReply : reply.IsReply port cert) (rest : Text) :
    scanReply (printed earlier ++ reply.text ++ rest) = .ok (port, cert) ∧
      scanReply (printed earlier ++ reply.content) = .ok (port, cert) := by
  have passed : ∀ line ∈ earlier.map PrintedLine.read, parseReplyLine line = .ok none := by
    intro line member
    rcases List.mem_map.mp member with ⟨printedLine, printedMember, rfl⟩
    apply parseReplyLine_of_quiet
    rw [trim_read]
    exact quiet printedLine printedMember
  have trimmed := isReply.trim_content filled
  constructor
  · have lines : linesFrom [] (printed earlier ++ reply.text ++ rest) =
        earlier.map PrintedLine.read ++ reply.read :: linesFrom [] rest := by
      have single : reply.text = printed [reply] := by simp [printed]
      rw [single, List.append_assoc, linesFrom_printed, linesFrom_printed]
      rfl
    rw [scanReply, lines, firstLine_append passed, firstLine,
      parseReplyLine_of_trim filled (trim_read reply ▸ trimmed)]
  · have lines : linesFrom [] (printed earlier ++ reply.content) =
        earlier.map PrintedLine.read ++ [reply.content] := by
      have filledLine : [] ++ reply.content ≠ [] := by
        intro empty
        rw [List.nil_append] at empty
        rw [empty] at trimmed
        cases trimmed
      rw [linesFrom_printed, linesFrom_unterminated reply.unbroken filledLine, List.nil_append]
    rw [scanReply, lines, firstLine_append passed, firstLine,
      parseReplyLine_of_trim filled trimmed]

/-- A banner, a blank line, and the reply with white space around it. -/
theorem scanReply_behind_banner :
    scanReply "Welcome\r\n\n\tPORT 4433 CERT 30ff \r\nbye".toList = .ok (4433, [0x30, 0xFF]) :=
  (scanReply_recovers [⟨"Welcome".toList, .crlf, by decide⟩, ⟨[], .lf, by decide⟩]
    ⟨"\tPORT 4433 CERT 30ff ".toList, .crlf, by decide⟩ (by decide) (by decide)
    ⟨['\t'], [' '], by decide, by decide, by decide⟩ "bye".toList).1

end Etr.Bootstrap

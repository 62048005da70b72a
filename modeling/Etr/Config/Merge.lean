import Etr.Bootstrap.Reply

/-!
Contract: adding the missing options to an existing configuration file.

Owns the comment blocks, the line scan and `merge_defaults` of `src/config.rs`.

Does not own what a line means in TOML.
-/

namespace Etr.Config

open Etr.Bootstrap

/-! ## Key blocks -/

/-- One line of `contains_key_line`: a leading `#` does not count. -/
def isKeyLine (key line : Text) : Bool :=
  let trimmed := trim line
  let withoutComment := ((stripPrefix ['#'] trimmed).map trim).getD trimmed
  ((stripPrefix key withoutComment).map trim).any fun rest => ['='].isPrefixOf rest

/-- Two quotes of one kind behind one another. -/
def hasQuotePair : Text → Bool
  | c :: next :: rest =>
      (c == next && (c == '"' || c == '\'')) || hasQuotePair (next :: rest)
  | _ => false

/-- A comment that ends no string and escapes nothing, wherever it stands. -/
def isQuietComment (line : Text) : Bool :=
  line.head? == some '#' && !line.contains '\r' && !line.contains '\\' && !hasQuotePair line

/-- The block has comment lines only, and the key is on one of them. -/
def documents (key block : Text) : Bool :=
  (block.splitOn '\n').all isQuietComment && (block.splitOn '\n').any (isKeyLine key)

theorem documents_ofList {key block : List Char} (documented : documents key block = true) :
    documents (String.ofList key).toList (String.ofList block).toList = true := by
  rw [String.toList_ofList, String.toList_ofList]
  exact documented

/-- A key and the commented lines that document it. -/
structure KeyBlock where
  key : Text
  block : Text
  documented : documents key block = true
deriving DecidableEq

set_option maxRecDepth 4000 in
def clientKeyBlocks : List KeyBlock :=
  [ ⟨"ssh_port".toList,
      "# SSH port used for the bootstrap connection (default: 22).\n# ssh_port = 22".toList,
      documents_ofList (by decide +kernel)⟩,
    ⟨"server_path".toList,
      "# Path to the etrs binary on the remote host (default: \"etrs\", relies on PATH).\n# server_path = \"etrs\"".toList,
      documents_ofList (by decide +kernel)⟩,
    ⟨"address_family".toList,
      "# Which IP version to try first when a host resolves to both: \"ipv4\", \"ipv6\",\n# or \"auto\" (default). A preference, not a restriction — the other family is\n# still used when the preferred one is absent or unroutable.\n# Equivalent to -4 / --prefer-ipv4 and -6 / --prefer-ipv6.\n# address_family = \"auto\"".toList,
      documents_ofList (by decide +kernel)⟩,
    ⟨"log_path".toList,
      "# Path to the client-side log file (default: $XDG_STATE_HOME/etr/etr.log).\n# Logs are only written when -v or higher is passed.\n# log_path = \"~/.local/state/etr/etr.log\"".toList,
      documents_ofList (by decide +kernel)⟩,
    ⟨"server_log_path".toList,
      "# Path to the server log file on the remote host (default: $XDG_STATE_HOME/etr/etrs.log).\n# server_log_path = \"~/.local/state/etr/etrs.log\"".toList,
      documents_ofList (by decide +kernel)⟩,
    ⟨"gateway_ports".toList,
      "# When true, local forwarded ports are bound to all interfaces (0.0.0.0 and ::)\n# instead of loopback only, allowing other hosts to connect (default: false).\n# gateway_ports = false".toList,
      documents_ofList (by decide +kernel)⟩,
    ⟨"forward".toList,
      "# Default local port forwards applied to every connection (same syntax as -L).\n# forward = [\"8080:localhost:80\", \"5353:8.8.8.8:53/udp\"]".toList,
      documents_ofList (by decide +kernel)⟩,
    ⟨"reverse_forward".toList,
      "# Default remote port forwards applied to every connection (same syntax as -R).\n# reverse_forward = [\"9090:localhost:9090\"]".toList,
      documents_ofList (by decide +kernel)⟩,
    ⟨"env".toList,
      "# Environment variables to set or forward in the remote shell.\n# \"KEY=VALUE\" sets the variable; \"KEY\" alone forwards it from the local environment.\n# env = [\"EDITOR\", \"TERM=xterm-256color\"]".toList,
      documents_ofList (by decide +kernel)⟩,
    ⟨"x11".toList,
      "# Enable X11 forwarding (default: false).\n# x11 = false".toList,
      documents_ofList (by decide +kernel)⟩,
    ⟨"x11_trusted".toList,
      "# Enable trusted X11 forwarding (default: false).\n# x11_trusted = false".toList,
      documents_ofList (by decide +kernel)⟩ ]

set_option maxRecDepth 4000 in
def serverKeyBlocks : List KeyBlock :=
  [ ⟨"reconnect_timeout".toList,
      "# How long (seconds) the server keeps a session alive while the client is\n# disconnected (default: 1800, i.e. 30 minutes).\n# reconnect_timeout = 1800".toList,
      documents_ofList (by decide +kernel)⟩,
    ⟨"address_family".toList,
      "# Which IP version etrs tries first when it resolves the targets of -L\n# forwards, and which wildcard address it binds by default (\"ipv4\" binds\n# 0.0.0.0; \"ipv6\"/\"auto\" bind the dual-stack [::]). Equivalent to etrs -4/-6.\n# A connecting client's own -4/-6 overrides this for forward targets.\n# address_family = \"auto\"".toList,
      documents_ofList (by decide +kernel)⟩ ]

/-! ## Merging -/

def containsKeyLine (content key : Text) : Bool :=
  (linesFrom [] content).any (isKeyLine key)

/-- The blocks whose keys are on no line of `existing`. -/
def missingBlocks (existing : Text) (blocks : List KeyBlock) : List KeyBlock :=
  blocks.filter fun entry => !containsKeyLine existing entry.key

def clientHeader : Text := "[client]".toList

def serverHeader : Text := "[server]".toList

structure MergeState where
  result : Text
  clientInserted : Bool
  serverInserted : Bool
deriving DecidableEq, Repr

/-- `push_str` of every block and a newline. -/
def pushBlocks (result : Text) (missing : List KeyBlock) : Text :=
  result ++ missing.flatMap fun entry => entry.block ++ ['\n']

/-- A new section, behind an empty line if there is anything in front of it. -/
def pushSection (result header : Text) (missing : List KeyBlock) : Text :=
  pushBlocks ((if result.isEmpty then result else result ++ ['\n']) ++ header ++ ['\n']) missing

section Loop

variable (missingClient missingServer : List KeyBlock)

/-- Emit a new `[client]` section if one never appeared. -/
def MergeState.openClient (state : MergeState) : MergeState :=
  if !missingClient.isEmpty && !state.clientInserted then
    { state with
      result := pushSection state.result clientHeader missingClient
      clientInserted := true }
  else
    state

def MergeState.openServer (state : MergeState) : MergeState :=
  if !missingServer.isEmpty && !state.serverInserted then
    { state with
      result := pushSection state.result serverHeader missingServer
      serverInserted := true }
  else
    state

/-- One turn of the loop of `merge_defaults`. -/
def mergeLine (state : MergeState) (line : Text) : MergeState :=
  if trim line = clientHeader then
    { state with
      result := pushBlocks (state.result ++ line ++ ['\n']) missingClient
      clientInserted := state.clientInserted || !missingClient.isEmpty }
  else if trim line = serverHeader then
    let opened := state.openClient missingClient
    { opened with
      result := pushBlocks (opened.result ++ line ++ ['\n']) missingServer
      serverInserted := opened.serverInserted || !missingServer.isEmpty }
  else
    { state with result := state.result ++ line ++ ['\n'] }

/-- Sections that never appeared in the file are appended. -/
def finishMerge (state : MergeState) : Text :=
  ((state.openClient missingClient).openServer missingServer).result

end Loop

def mergeDefaults (existing : Text) : Text × List Text :=
  let missingClient := missingBlocks existing clientKeyBlocks
  let missingServer := missingBlocks existing serverKeyBlocks
  let additions := (missingClient ++ missingServer).map KeyBlock.key
  if additions.isEmpty then
    let s := trimEnd existing
    (if s.isEmpty then s else s ++ ['\n'], additions)
  else
    (finishMerge missingClient missingServer
        ((linesFrom [] existing).foldl (mergeLine missingClient missingServer) ⟨[], false, false⟩),
      additions)

end Etr.Config

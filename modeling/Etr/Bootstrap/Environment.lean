import Etr.Bootstrap.RoundTrip
import Etr.Library.Assignments
import Mathlib.Data.List.Basic

/-!
Contract: the environment of the shell, from the client's settings.

Owns the environment entries `main` of `src/bin/etr.rs` puts into a request,
`is_safe_client_env_var` and the variables `run_session` of `src/bin/etrs.rs`
sets for the shell, and what a shell behind the whole way finds in a variable.

Does not own the request on the wire. The variables a shell inherits are given.
-/

namespace Etr.Bootstrap

open Etr.Library

/-- `split_once('=')`. -/
def splitOnce : Text → Option (Text × Text)
  | [] => none
  | c :: rest =>
      if c = '=' then some ([], rest)
      else (splitOnce rest).map fun pair => (c :: pair.1, pair.2)

/-! ## Client -/

/-- What the client's entries are made from. -/
structure ClientSettings where
  /-- `std::env::var`. -/
  localVar : Text → Option Text
  /-- `--env`. -/
  cliEnv : List Text
  /-- `env` of the `[client]` table. -/
  configEnv : Option (List Text)

/-- The variables that are passed on unasked. -/
def localeKeys : List Text :=
  ["LANG", "LC_ALL", "LC_CTYPE", "LC_COLLATE", "LC_MESSAGES", "LC_MONETARY", "LC_NUMERIC",
    "LC_TIME", "COLORTERM", "TERM_PROGRAM", "TERM_PROGRAM_VERSION"].map String.toList

namespace ClientSettings

def rawEnv (settings : ClientSettings) : List Text :=
  if settings.cliEnv ≠ [] then settings.cliEnv else settings.configEnv.getD []

/-- An entry without an equals sign takes the local value, if there is one. -/
def resolveEntry (settings : ClientSettings) (entry : Text) : Option Text :=
  if '=' ∈ entry then some entry
  else (settings.localVar entry).map fun value => entry ++ '=' :: value

def explicitEnv (settings : ClientSettings) : List Text :=
  settings.rawEnv.filterMap settings.resolveEntry

/-- The local value of a variable, if it has no control characters. -/
def cleanVar (settings : ClientSettings) (key : Text) : Option Text :=
  (settings.localVar key).filter fun value => !containsControl value

def localePrefix (settings : ClientSettings) : List Text :=
  (localeKeys.filter fun key =>
    !settings.explicitEnv.any fun entry => (key ++ ['=']).isPrefixOf entry).filterMap fun key =>
      (settings.cleanVar key).map fun value => key ++ '=' :: value

def envVars (settings : ClientSettings) : List Text :=
  settings.localePrefix ++ settings.explicitEnv

def term (settings : ClientSettings) : Text :=
  (settings.cleanVar "TERM".toList).getD "xterm-256color".toList

end ClientSettings

/-! ## Server -/

def blockedEnvKeys : List Text :=
  ["LD_PRELOAD", "LD_LIBRARY_PATH", "LD_AUDIT", "LD_DYNAMIC_WEAK", "DYLD_INSERT_LIBRARIES",
    "DYLD_LIBRARY_PATH", "DYLD_FRAMEWORK_PATH", "BASH_ENV", "ENV"].map String.toList

def eqIgnoreAsciiCase (left right : Text) : Bool :=
  left.map Char.toLower == right.map Char.toLower

/-- The key is one of the blocked ones, whatever its case. -/
def isBlockedKey (key : Text) : Bool :=
  blockedEnvKeys.any fun blocked => eqIgnoreAsciiCase key blocked

def isSafeClientEnvVar (entry : Text) : Bool :=
  if containsControl entry then false
  else
    match splitOnce entry with
    | none => false
    | some (key, _) => if key.isEmpty then false else !isBlockedKey key

/-- What the server gives its shell on its own account. -/
structure ShellHost where
  /-- The environment of the server. -/
  inherited : Text → Option Text
  /-- The X11 display of the session. -/
  displayNum : Option Nat
  version : Text

namespace ShellHost

/-- The variables `run_session` sets before those of the client. -/
def ownVars (host : ShellHost) (term : Text) : List (Text × Text) :=
  (host.displayNum.map fun display =>
      ("DISPLAY".toList, ("localhost:" ++ toString display ++ ".0").toList)).toList ++
    [("TERM".toList, term), ("ETR_CONNECTION".toList, ['1']),
      ("ETR_VERSION".toList, host.version)] ++
    ((host.inherited "SSH_CONNECTION".toList).map fun value =>
      ("SSH_CONNECTION".toList, value)).toList

/-- The environment without the client's entries. -/
def ownEnv (host : ShellHost) (term : Text) : Text → Option Text :=
  assign host.inherited (host.ownVars term)

/-- The environment of the shell. -/
def shellEnv (host : ShellHost) (request : Request) : Text → Option Text :=
  assign (host.ownEnv request.term)
    ((request.envVars.filter isSafeClientEnvVar).filterMap splitOnce)

end ShellHost

/-! ## Entries -/

theorem splitOnce_append {key : Text} (unsplit : '=' ∉ key) (value : Text) :
    splitOnce (key ++ '=' :: value) = some (key, value) := by
  induction key with
  | nil => rfl
  | cons c rest inductionHypothesis =>
      have other : c ≠ '=' := by
        rintro rfl
        exact unsplit List.mem_cons_self
      have tail : '=' ∉ rest := fun member => unsplit (List.mem_cons_of_mem _ member)
      rw [List.cons_append, splitOnce, if_neg other, inductionHypothesis tail]
      rfl

theorem eq_of_splitOnce {entry key value : Text} (split : splitOnce entry = some (key, value)) :
    entry = key ++ '=' :: value ∧ '=' ∉ key := by
  induction entry generalizing key with
  | nil => cases split
  | cons c rest inductionHypothesis =>
      rw [splitOnce] at split
      split at split
      · rename_i sign
        cases split
        exact ⟨by rw [sign]; rfl, List.not_mem_nil⟩
      · rename_i other
        obtain ⟨⟨front, back⟩, found, same⟩ := Option.map_eq_some_iff.mp split
        cases same
        obtain ⟨shape, unsplit⟩ := inductionHypothesis found
        refine ⟨by rw [shape]; rfl, ?_⟩
        intro member
        rcases List.mem_cons.mp member with sign | later
        · exact other sign.symm
        · exact unsplit later

theorem splitOnce_eq_none {entry : Text} (unsplit : '=' ∉ entry) : splitOnce entry = none := by
  cases split : splitOnce entry with
  | none => rfl
  | some pair =>
      obtain ⟨shape, -⟩ : entry = pair.1 ++ '=' :: pair.2 ∧ '=' ∉ pair.1 := eq_of_splitOnce split
      rw [shape] at unsplit
      exact absurd (List.mem_append_right _ List.mem_cons_self) unsplit

/-- A front without an equals sign is in front of the key. -/
theorem prefix_key {front key value : Text} (unsplit : '=' ∉ front)
    (starts : front <+: key ++ '=' :: value) : front <+: key := by
  induction front generalizing key with
  | nil => exact List.nil_prefix
  | cons c rest inductionHypothesis =>
      have tail : '=' ∉ rest := fun member => unsplit (List.mem_cons_of_mem _ member)
      cases key with
      | nil =>
          obtain ⟨rfl, -⟩ := List.cons_prefix_cons.mp starts
          exact absurd List.mem_cons_self unsplit
      | cons d later =>
          obtain ⟨rfl, shorter⟩ := List.cons_prefix_cons.mp starts
          exact List.cons_prefix_cons.mpr ⟨rfl, inductionHypothesis tail shorter⟩

/-- A variable that can be asked for. -/
structure ShellName (key : Text) : Prop where
  nonempty : key ≠ []
  unsplit : '=' ∉ key
  plain : PlainEntry key

instance (key : Text) : Decidable (ShellName key) :=
  decidable_of_iff (key ≠ [] ∧ '=' ∉ key ∧ PlainEntry key)
    ⟨fun ⟨nonempty, unsplit, plain⟩ => ⟨nonempty, unsplit, plain⟩,
      fun name => ⟨name.nonempty, name.unsplit, name.plain⟩⟩

theorem ShellName.plainEntry {key : Text} (name : ShellName key) (value : Text) :
    PlainEntry (key ++ '=' :: value) :=
  ⟨fun starts => name.plain.1 (prefix_key (by decide) starts),
    fun starts => name.plain.2.1 (prefix_key (by decide) starts),
    fun starts => name.plain.2.2 (prefix_key (by decide) starts)⟩

/-! ## What the client asks for -/

namespace ClientSettings

variable {settings : ClientSettings} {key : Text}

/-- What one entry asks for. -/
def requestOf (settings : ClientSettings) (entry : Text) : Option (Text × Text) :=
  match splitOnce entry with
  | some pair => some pair
  | none => (settings.localVar entry).map fun value => (entry, value)

/-- What the user asks for a variable to be: the last entry about it decides. -/
def requested (settings : ClientSettings) (key : Text) : Option Text :=
  assigned (settings.rawEnv.filterMap settings.requestOf) key

/-- What is passed on for a variable unasked. -/
def passedOn (settings : ClientSettings) (key : Text) : Option Text :=
  if localeKeys.contains key then settings.cleanVar key else none

theorem splitOnce_resolveEntry (settings : ClientSettings) (entry : Text) :
    (settings.resolveEntry entry).bind splitOnce = settings.requestOf entry := by
  unfold resolveEntry requestOf
  split
  · rename_i sign
    obtain ⟨key, value, rfl, unsplit⟩ := List.eq_append_cons_of_mem sign
    rw [Option.bind_some, splitOnce_append unsplit]
  · rename_i unsplit
    rw [splitOnce_eq_none unsplit, Option.bind_map]
    cases settings.localVar entry with
    | none => rfl
    | some value => exact splitOnce_append unsplit value

theorem pairs_explicitEnv (settings : ClientSettings) :
    settings.explicitEnv.filterMap splitOnce = settings.rawEnv.filterMap settings.requestOf := by
  rw [explicitEnv, List.filterMap_filterMap]
  exact List.filterMap_congr fun entry _ => settings.splitOnce_resolveEntry entry

theorem localeKeys_unsplit : ∀ key ∈ localeKeys, '=' ∉ key := by
  decide

/-- The entries that were not asked for, as assignments. -/
theorem pairs_localePrefix (settings : ClientSettings) :
    settings.localePrefix.filterMap splitOnce =
      (localeKeys.filter fun key =>
        !settings.explicitEnv.any fun entry => (key ++ ['=']).isPrefixOf entry).filterMap
          fun key => (settings.cleanVar key).map fun value => (key, value) := by
  rw [localePrefix, List.filterMap_filterMap]
  apply List.filterMap_congr
  intro key member
  have unsplit := localeKeys_unsplit key (List.mem_filter.mp member).1
  cases settings.cleanVar key with
  | none => rfl
  | some value => exact splitOnce_append unsplit value

/-- Nobody asked: then no entry starts with the variable. -/
theorem unasked (unsplit : '=' ∉ key) (none : settings.requested key = none) :
    (settings.explicitEnv.any fun entry => (key ++ ['=']).isPrefixOf entry) = false := by
  apply List.any_eq_false.mpr
  intro entry member starts
  obtain ⟨value, rfl⟩ := List.isPrefixOf_iff_prefix.mp starts
  have split : splitOnce (key ++ ['='] ++ value) = some (key, value) := by
    rw [List.append_assoc]
    exact splitOnce_append unsplit value
  have pair : (key, value) ∈ settings.rawEnv.filterMap settings.requestOf := by
    rw [← pairs_explicitEnv]
    exact List.mem_filterMap.mpr ⟨_, member, split⟩
  exact not_mem_of_assigned_eq_none none pair

/-- What the entries of the client say of a variable. -/
theorem assigned_envVars (unsplit : '=' ∉ key) :
    assigned (settings.envVars.filterMap splitOnce) key =
      (settings.requested key).or (settings.passedOn key) := by
  rw [envVars, List.filterMap_append, assigned_append, pairs_explicitEnv, pairs_localePrefix]
  cases asked : assigned (settings.rawEnv.filterMap settings.requestOf) key with
  | some value =>
      rw [requested, asked]
      rfl
  | none =>
      rw [requested, asked, Option.none_or, Option.none_or, assigned_tabulated, passedOn]
      have listed : (key ∈ localeKeys.filter fun key =>
          !settings.explicitEnv.any fun entry => (key ++ ['=']).isPrefixOf entry) ↔
          key ∈ localeKeys := by
        rw [List.mem_filter, unasked unsplit asked]
        exact and_iff_left rfl
      simp only [listed, List.contains_iff_mem]

/-- Every entry has an equals sign. -/
theorem sign_mem_envVars (settings : ClientSettings) :
    ∀ entry ∈ settings.envVars, '=' ∈ entry := by
  intro entry member
  rcases List.mem_append.mp member with unasked | asked
  · obtain ⟨key, -, given⟩ := List.mem_filterMap.mp unasked
    obtain ⟨value, -, rfl⟩ := Option.map_eq_some_iff.mp given
    exact List.mem_append_right _ List.mem_cons_self
  · obtain ⟨raw, -, given⟩ := List.mem_filterMap.mp asked
    unfold resolveEntry at given
    split at given
    · rename_i sign
      cases given
      exact sign
    · obtain ⟨value, -, rfl⟩ := Option.map_eq_some_iff.mp given
      exact List.mem_append_right _ List.mem_cons_self

/-- The request the client makes of its settings. -/
def request (settings : ClientSettings) (sessionId : List UInt8) (passkey : Text)
    (x11Enabled : Bool) (addrPref : AddrPref) (remoteCommand : Option Text) : Request where
  sessionId := sessionId
  passkey := passkey
  term := settings.term
  envVars := settings.envVars
  x11Enabled := x11Enabled
  addrPref := addrPref
  remoteCommand := remoteCommand

end ClientSettings

/-! ## What the shell finds -/

namespace ShellHost

variable {host : ShellHost} {key : Text}

/-- The server drops an entry about a blocked variable, whoever sent it. -/
theorem shellEnv_of_blocked (blocked : isBlockedKey key = true) (request : Request) :
    host.shellEnv request key = host.ownEnv request.term key := by
  rw [shellEnv, assign_apply, assigned_eq_none]
  · rfl
  · intro pair member
    obtain ⟨entry, kept, split⟩ := List.mem_filterMap.mp member
    have safe := (List.mem_filter.mp kept).2
    rintro rfl
    simp [isSafeClientEnvVar, split, blocked] at safe

/-- The entries the server keeps say the same of an allowed variable. -/
theorem shellEnv_of_allowed {request : Request} (name : ShellName key)
    (allowed : isBlockedKey key = false)
    (clean : ∀ entry ∈ request.envVars, containsControl entry = false) :
    host.shellEnv request key =
      (assigned (request.envVars.filterMap splitOnce) key).or (host.ownEnv request.term key) := by
  rw [shellEnv, assign_apply, assigned_filter]
  intro entry member value split
  have filled : key.isEmpty = false := by
    cases key with
    | nil => exact absurd rfl name.nonempty
    | cons c rest => rfl
  simp [isSafeClientEnvVar, clean entry member, split, filled, allowed]

end ShellHost

/-- The entries of a client whose inputs are accepted have no control
characters. -/
theorem clean_of_bootstrapSsh {target text : Text} {request : Request}
    (written : bootstrapSsh target request = .ok text) :
    ∀ entry ∈ request.envVars, containsControl entry = false := by
  unfold bootstrapSsh validateBootstrapInputs at written
  split at written
  · cases written
  · split at written
    · cases written
    · split at written
      · cases written
      · rename_i entries
        intro entry member
        rw [Bool.not_eq_true] at entries
        exact Bool.eq_false_iff.mpr (List.any_eq_false.mp entries entry member)

/-- A server reads back the terminal and the entries that are plain. -/
theorem exists_parsed {target text : Text} {request : Request} (formed : WellFormed request)
    (written : bootstrapSsh target request = .ok text) :
    ∃ parsed, parseRequest text = .ok parsed ∧ parsed.term = parsedTerm request.term ∧
      parsed.envVars = request.envVars.filter fun entry => PlainEntry entry := by
  refine ⟨_, parseRequest_written formed written, (foldl_applyLine_fields _ _).1, ?_⟩
  rw [(foldl_applyLine_fields _ _).2, filter_requestLines, List.nil_append]

/-- **A shell has the variables that were asked for, and its blocked ones are
its own.** Whatever text a server reads, no blocked variable is set by it, in
any case of its letters. Of a client with accepted inputs, each other variable
is what the user asked for last; else, of the variables passed on unasked, what
it is for the client; else what the server has. -/
theorem shell_environment (host : ShellHost) :
    (∀ input parsed, parseRequest input = .ok parsed → ∀ key, isBlockedKey key = true →
      host.shellEnv parsed key = host.ownEnv parsed.term key) ∧
      ∀ settings sessionId passkey x11Enabled addrPref remoteCommand target text,
        sessionId.length = 16 → (∀ c ∈ passkey, c.isAlphanum = true) →
        bootstrapSsh target (ClientSettings.request settings sessionId passkey x11Enabled addrPref
          remoteCommand) = .ok text →
        ∃ parsed, parseRequest text = .ok parsed ∧ parsed.term = parsedTerm settings.term ∧
          ∀ key, ShellName key → isBlockedKey key = false →
            host.shellEnv parsed key =
              (settings.requested key).or
                ((settings.passedOn key).or (host.ownEnv parsed.term key)) := by
  refine ⟨fun _ parsed _ key blocked => host.shellEnv_of_blocked blocked parsed, ?_⟩
  intro settings sessionId passkey x11Enabled addrPref remoteCommand target text identity secret
    written
  have formed : WellFormed (settings.request sessionId passkey x11Enabled addrPref
      remoteCommand) := ⟨identity, secret, settings.sign_mem_envVars⟩
  have clean := clean_of_bootstrapSsh written
  obtain ⟨parsed, read, term, entries⟩ := exists_parsed formed written
  refine ⟨parsed, read, term, ?_⟩
  intro key name allowed
  have kept : ∀ entry ∈ settings.envVars, ∀ value, splitOnce entry = some (key, value) →
      decide (PlainEntry entry) = true := by
    intro entry _ value split
    obtain ⟨rfl, -⟩ := eq_of_splitOnce split
    exact decide_eq_true (name.plainEntry value)
  have asked : assigned (parsed.envVars.filterMap splitOnce) key =
      (settings.requested key).or (settings.passedOn key) := by
    rw [entries]
    exact (assigned_filter kept).trans (settings.assigned_envVars name.unsplit)
  rw [ShellHost.shellEnv_of_allowed name allowed, asked, Option.or_assoc]
  intro entry member
  rw [entries] at member
  exact clean entry (List.mem_filter.mp member).1

/-- A client with a locale, one variable passed on by its name, and a blocked
one. -/
def sampleSettings : ClientSettings where
  localVar := fun key =>
    if key = "LANG".toList then some "C".toList
    else if key = "EDITOR".toList then some "vi".toList
    else none
  cliEnv := ["EDITOR".toList, "EDITOR=ed".toList, "ld_preload=x.so".toList, "EDITOR".toList]
  configEnv := none

def sampleHost : ShellHost where
  inherited := fun key => if key = "LANG".toList then some "POSIX".toList else none
  displayNum := some 10
  version := "1.0".toList

theorem sample_environment :
    ∃ text parsed,
      bootstrapSsh "host".toList (sampleSettings.request (sampleRequest [] none).sessionId
        "k3y".toList true .auto none) = .ok text ∧
      parseRequest text = .ok parsed ∧
      sampleHost.shellEnv parsed "EDITOR".toList = some "vi".toList ∧
      sampleHost.shellEnv parsed "LANG".toList = some "C".toList ∧
      sampleHost.shellEnv parsed "ld_preload".toList = none := by
  have written : ∃ text,
      bootstrapSsh "host".toList (sampleSettings.request (sampleRequest [] none).sessionId
        "k3y".toList true .auto none) = .ok text := ⟨_, rfl⟩
  obtain ⟨text, written⟩ := written
  obtain ⟨refuses, grants⟩ := shell_environment sampleHost
  have secret : ∀ c ∈ "k3y".toList, c.isAlphanum = true :=
    List.all_eq_true.mp (by decide)
  obtain ⟨parsed, read, term, granted⟩ := grants sampleSettings _ _ true .auto none "host".toList
    text rfl secret written
  refine ⟨text, parsed, written, read, ?_, ?_, ?_⟩
  · rw [granted _ (by decide) (by decide)]
    rfl
  · rw [granted _ (by decide) (by decide)]
    rfl
  · rw [refuses text parsed read _ (by decide), term]
    decide

end Etr.Bootstrap

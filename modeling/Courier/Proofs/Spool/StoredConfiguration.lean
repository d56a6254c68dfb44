import Courier.Proofs.Json.Floats
import Courier.Proofs.Spool.Validity
import Courier.Proofs.Spool.Writing
import Courier.Proofs.Wire.Messages

/-!
# The stored form of a configuration

A configuration that was loaded can be saved and loaded again.  Whatever its text left out has then
been filled in: the usual values, the name of the machine and the common stop file.  All this is
written, so that the text that was saved says the same to any machine.

The one number that is not an integer, the factor of the waits, is assumed to be read back from the
decimal that it is written as.

Main definitions:

- `Configuration.Fits` says that the numbers of a configuration have their widths and its aliases are
  in order.
- `Configuration.ofBytes?` is what the content of a configuration file says.
- `Configuration.Accepts` says which configuration is loaded from the files.

Main statements:

- A configuration that fits is read back (`Configuration.ofBytes?_toUTF8`), and what is read fits
  (`Configuration.fits_of_ofBytes?`).
- Loading ends with the configuration that is accepted, if any (`Configuration.yields_load`).
- A configuration that was loaded and saved is loaded again (`Configuration.load_saved`).
-/

namespace Courier

open Program

/-! ## Parts -/

namespace Partner

/-- An entry is read back from its JSON form. -/
theorem ofJson_toJson (p : Partner) : ofJson p.toJson = .ok p := by
  simp [ofJson, toJson, Json.fields_object, fieldNames, Role.ofJson_toJson]

theorem isWhole_toJson (p : Partner) : Json.IsWhole p.toJson := by
  simp [toJson, Json.IsWhole, Json.AreWholeMembers, Role.toJson]

end Partner

namespace Rule

/-- A rule is read back from its JSON form. -/
theorem ofJson_toJson (r : Rule) : ofJson r.toJson = .ok r := by
  simp [ofJson, toJson, Json.fields_object, fieldNames, Mode.ofJson_toJson, Path.ofJson_toJson]

theorem isWhole_toJson (r : Rule) : Json.IsWhole r.toJson := by
  simp [toJson, Json.IsWhole, Json.AreWholeMembers, Mode.toJson, Path.toJson]

end Rule

namespace Settings

/-- Whether the integers of settings have their widths. -/
structure Fits (s : Settings) : Prop where
  retryLimit : s.retryLimit < Json.wordValues 32
  overloadRetryLimit : s.overloadRetryLimit < Json.wordValues 32
  overloadBackoffMs : s.overloadBackoffMs < Json.wordValues 64
  reconnectInitialMs : s.reconnectInitialMs < Json.wordValues 64
  reconnectMaxMs : s.reconnectMaxMs < Json.wordValues 64
  completionTimeoutMs : ∀ ms ∈ s.completionTimeoutMs, ms < Json.wordValues 64
  requestTimeoutMs : s.requestTimeoutMs < Json.wordValues 64

/-- Whether the factor of the waits is read back from the decimal that it is written as. -/
def KeepsFactor (s : Settings) : Prop :=
  Json.toFloat (.number (.ofFloat s.reconnectFactor)) = .ok s.reconnectFactor

/-- Settings are read back from their JSON form. -/
theorem ofJson_toJson {s : Settings} (h : s.Fits) (hfactor : s.KeepsFactor) :
    ofJson s.toJson = .ok s := by
  have hretry := Json.toNat32_ofNat h.retryLimit
  have hoverload := Json.toNat32_ofNat h.overloadRetryLimit
  have hbackoff := Json.toNat64_ofNat h.overloadBackoffMs
  have hinitial := Json.toNat64_ofNat h.reconnectInitialMs
  have hmax := Json.toNat64_ofNat h.reconnectMaxMs
  have hrequest := Json.toNat64_ofNat h.requestTimeoutMs
  have htimeout : ∀ ms ∈ s.completionTimeoutMs,
      Json.toOption Json.toNat64 (.ofNat ms) = .ok (some ms) := fun ms hms =>
    Json.toOption_eq_ok (by simp [Json.ofNat, Json.ofInt])
      (Json.toNat64_ofNat (h.completionTimeoutMs ms hms))
  have hnull : Json.toOption Json.toNat64 .null = .ok none := rfl
  unfold KeepsFactor at hfactor
  rcases s with ⟨retry, overload, backoff, initial, longest, factor, timeout, request⟩
  cases timeout <;>
    simp [ofJson, toJson, Json.fields_object, fieldNames, Json.ofOption, hretry, hoverload,
      hbackoff, hinitial, hmax, hfactor, hrequest, htimeout, hnull]

theorem isWhole_toJson (s : Settings) : Json.IsWhole s.toJson := by
  have hfactor := Json.Number.wellFormed_ofFloat s.reconnectFactor
  rcases s with ⟨retry, overload, backoff, initial, longest, factor, timeout, request⟩
  cases timeout <;>
    simp [toJson, Json.IsWhole, Json.AreWholeMembers, Json.ofOption, Json.isWhole_ofNat, hfactor]

theorem fits_standard : standard.Fits := by
  constructor <;> decide

theorem keepsFactor_standard : standard.KeepsFactor := by
  have hread : (Json.Number.ofFloat standard.reconnectFactor).toFloat? =
      some standard.reconnectFactor := by rfl
  rw [KeepsFactor, Json.toFloat, hread]

/-- The integers of settings that were read have their widths. -/
theorem fits_of_ofJson {s : Settings} {j : Json} (h : ofJson j = .ok s) : s.Fits := by
  obtain ⟨f, -, h⟩ := Json.bind_eq_ok h
  obtain ⟨retryLimit, hretry, h⟩ := Json.bind_eq_ok h
  obtain ⟨overloadRetryLimit, hoverload, h⟩ := Json.bind_eq_ok h
  obtain ⟨overloadBackoffMs, hbackoff, h⟩ := Json.bind_eq_ok h
  obtain ⟨reconnectInitialMs, hinitial, h⟩ := Json.bind_eq_ok h
  obtain ⟨reconnectMaxMs, hmax, h⟩ := Json.bind_eq_ok h
  obtain ⟨reconnectFactor, -, h⟩ := Json.bind_eq_ok h
  obtain ⟨completionTimeoutMs, htimeout, h⟩ := Json.bind_eq_ok h
  obtain ⟨requestTimeoutMs, hrequest, h⟩ := Json.bind_eq_ok h
  cases h
  exact
    { retryLimit := Json.Fields.lt_of_withDefault fits_standard.retryLimit hretry
      overloadRetryLimit := Json.Fields.lt_of_withDefault fits_standard.overloadRetryLimit hoverload
      overloadBackoffMs := Json.Fields.lt_of_withDefault fits_standard.overloadBackoffMs hbackoff
      reconnectInitialMs := Json.Fields.lt_of_withDefault fits_standard.reconnectInitialMs hinitial
      reconnectMaxMs := Json.Fields.lt_of_withDefault fits_standard.reconnectMaxMs hmax
      completionTimeoutMs := by
        rintro ms rfl
        rcases Json.Fields.withDefault_eq_ok htimeout with hdefault | ⟨j, hread⟩
        · exact fits_standard.completionTimeoutMs ms hdefault.symm
        · exact Json.lt_of_toNat64 (Json.eq_ok_of_toOption hread)
      requestTimeoutMs := Json.Fields.lt_of_withDefault fits_standard.requestTimeoutMs hrequest }

end Settings

/-! ## Jobs -/

namespace Job

/-- Whether the numbers of a job have their widths. -/
structure Fits (j : Job) : Prop where
  minimalSize : j.minimalSize < Json.wordValues 64
  elapseMs : j.elapseMs < Json.wordValues 64
  limitParallel : j.limitParallel < Json.wordValues 64
  elapseObserverMs : j.elapseObserverMs < Json.wordValues 64
  blockSize : j.blockSize < Json.wordValues 32

/-- A job is read back from its JSON form. -/
theorem ofJson_toJson {j : Job} (h : j.Fits) : ofJson j.toJson = .ok j := by
  have hsize := Json.toNat64_ofNat h.minimalSize
  have helapse := Json.toNat64_ofNat h.elapseMs
  have hlimit := Json.toNat64_ofNat h.limitParallel
  have hobserver := Json.toNat64_ofNat h.elapseObserverMs
  have hblock := Json.toNat32_ofNat h.blockSize
  have hdirectories : Json.toListOf Path.ofJson (.list (j.directories.map Path.toJson)) =
      .ok j.directories := Json.toListOf_map fun p _ => p.ofJson_toJson
  have hhosts : Json.toListOf Json.toText (.list (j.hosts.map .string)) = .ok j.hosts :=
    Json.toListOf_map fun _ _ => rfl
  have hobservers : Json.toListOf Json.toText (.list (j.observerHosts.map .string)) =
      .ok j.observerHosts := Json.toListOf_map fun _ _ => rfl
  have hnull : Json.toOption Json.toText .null = .ok none := rfl
  rcases j with ⟨name, directories, statusFile, stopFile, rule, hosts, filter, minimalSize,
    elapseMs, recursive, parallel, limitParallel, submitOnly, observerHosts, elapseObserverMs,
    fileInfo, blockSize, useHash, noLog, logAsWarn⟩
  cases filter <;>
    simp [ofJson, toJson, Json.fields_object, fieldNames, Json.ofOption, Path.ofJson_toJson,
      hdirectories, hhosts, hobservers, hsize, helapse, hlimit, hobserver, hblock, hnull]

theorem isWhole_toJson (j : Job) : Json.IsWhole j.toJson := by
  have hdirectories : Json.AreWhole (j.directories.map Path.toJson) :=
    Json.areWhole_iff.2 (List.forall_mem_map.2 fun p _ => trivial)
  have hhosts : Json.AreWhole (j.hosts.map .string) :=
    Json.areWhole_iff.2 (List.forall_mem_map.2 fun _ _ => trivial)
  have hobservers : Json.AreWhole (j.observerHosts.map .string) :=
    Json.areWhole_iff.2 (List.forall_mem_map.2 fun _ _ => trivial)
  rcases j with ⟨name, directories, statusFile, stopFile, rule, hosts, filter, minimalSize,
    elapseMs, recursive, parallel, limitParallel, submitOnly, observerHosts, elapseObserverMs,
    fileInfo, blockSize, useHash, noLog, logAsWarn⟩
  cases filter <;>
    simp [toJson, Json.IsWhole, Json.AreWholeMembers, Json.ofOption, Path.toJson,
      Json.isWhole_ofNat, hdirectories, hhosts, hobservers]

/-- The numbers of a job that was read have their widths. -/
theorem fits_of_ofJson {job : Job} {j : Json} (h : ofJson j = .ok job) : job.Fits := by
  obtain ⟨f, -, h⟩ := Json.bind_eq_ok h
  obtain ⟨name, -, h⟩ := Json.bind_eq_ok h
  obtain ⟨directories, -, h⟩ := Json.bind_eq_ok h
  obtain ⟨statusFile, -, h⟩ := Json.bind_eq_ok h
  obtain ⟨stopFile, -, h⟩ := Json.bind_eq_ok h
  obtain ⟨rule, -, h⟩ := Json.bind_eq_ok h
  obtain ⟨hosts, -, h⟩ := Json.bind_eq_ok h
  obtain ⟨filter, -, h⟩ := Json.bind_eq_ok h
  obtain ⟨minimalSize, hsize, h⟩ := Json.bind_eq_ok h
  obtain ⟨elapseMs, helapse, h⟩ := Json.bind_eq_ok h
  obtain ⟨recursive, -, h⟩ := Json.bind_eq_ok h
  obtain ⟨parallel, -, h⟩ := Json.bind_eq_ok h
  obtain ⟨limitParallel, hlimit, h⟩ := Json.bind_eq_ok h
  obtain ⟨submitOnly, -, h⟩ := Json.bind_eq_ok h
  obtain ⟨observerHosts, -, h⟩ := Json.bind_eq_ok h
  obtain ⟨elapseObserverMs, hobserver, h⟩ := Json.bind_eq_ok h
  obtain ⟨fileInfo, -, h⟩ := Json.bind_eq_ok h
  obtain ⟨blockSize, hblock, h⟩ := Json.bind_eq_ok h
  obtain ⟨useHash, -, h⟩ := Json.bind_eq_ok h
  obtain ⟨noLog, -, h⟩ := Json.bind_eq_ok h
  obtain ⟨logAsWarn, -, h⟩ := Json.bind_eq_ok h
  cases h
  exact
    { minimalSize := Json.Fields.lt_of_withDefault (by decide) hsize
      elapseMs := Json.Fields.lt_of_withDefault (by decide) helapse
      limitParallel := Json.Fields.lt_of_withDefault (by decide) hlimit
      elapseObserverMs := Json.Fields.lt_of_withDefault (by decide) hobserver
      blockSize := Json.Fields.lt_of_withDefault (by decide) hblock }

end Job

/-! ## Aliases -/

namespace Configuration

theorem aliasBefore_asymm {a b : String × String} (h : aliasBefore a b = true) :
    aliasBefore b a = false := by
  rw [aliasBefore, decide_eq_true_iff] at h
  rw [aliasBefore, decide_eq_false_iff_not]
  exact String.lt_asymm h

/-- Aliases stay in order when one more is put at its place. -/
theorem ascending_putAlias {row : List (String × String)} (a : String × String)
    (h : Ordered.Ascending aliasBefore row) :
    Ordered.Ascending aliasBefore (Ordered.put aliasBefore a row) := by
  refine Ordered.ascending_put ?_ ?_ h
  · intro a b c hab hbc
    rw [aliasBefore, decide_eq_true_iff] at *
    exact String.lt_trans hab hbc
  · intro a b c hab hba hbc
    rw [aliasBefore, decide_eq_false_iff_not] at hab hba
    have hname : a.1 = b.1 := String.le_antisymm (String.not_lt.1 hba) (String.not_lt.1 hab)
    rw [aliasBefore, decide_eq_true_iff] at *
    rw [hname]
    exact hbc

/-- Aliases that were put in order are in order. -/
theorem ascending_sortAliases (aliases : List (String × String)) :
    Ordered.Ascending aliasBefore (sortAliases aliases) := by
  have hfold : ∀ rest row : List (String × String), Ordered.Ascending aliasBefore row →
      Ordered.Ascending aliasBefore
        (rest.foldl (fun row a => Ordered.put aliasBefore a row) row) := by
    intro rest
    induction rest with
    | nil => exact fun _ hrow => hrow
    | cons a rest ih =>
        intro row hrow
        exact ih _ (ascending_putAlias a hrow)
  exact hfold aliases [] List.Pairwise.nil

/-- Aliases in order are read back from their JSON form. -/
theorem aliasesOfJson_object {aliases : List (String × String)}
    (h : Ordered.Ascending aliasBefore aliases) :
    aliasesOfJson (.object (aliases.map fun a => (a.1, .string a.2))) = .ok aliases := by
  have hread : (aliases.map fun a => (a.1, Json.string a.2)).mapM
      (fun m => (Json.toText m.2).map fun host => (m.1, host)) = .ok aliases := by
    induction aliases with
    | nil => rfl
    | cons a aliases ih =>
        rw [List.map_cons, List.mapM_cons, ih (List.pairwise_cons.1 h).2]
        rfl
  have hsort : sortAliases aliases = aliases :=
    Ordered.foldl_put_of_ascending aliasBefore_asymm h
  rw [aliasesOfJson, hread, Json.ok_bind, hsort]
  rfl

theorem ascending_of_aliasesOfJson {aliases : List (String × String)} {j : Json}
    (h : aliasesOfJson j = .ok aliases) : Ordered.Ascending aliasBefore aliases := by
  cases j with
  | object members =>
      obtain ⟨read, -, h⟩ := Json.bind_eq_ok h
      obtain rfl := Except.ok.inj h
      exact ascending_sortAliases read
  | _ => cases h

/-! ## Configurations -/

/-- Whether the numbers of a configuration have their widths and its aliases are in order. -/
structure Fits (c : Configuration) : Prop where
  client : c.client.Fits
  jobs : ∀ j ∈ c.jobs, j.Fits
  aliases : Ordered.Ascending aliasBefore c.aliases

variable {c : Configuration}

/-- A configuration is read back from its JSON form, whatever the name of the machine. -/
theorem ofJson_toJson (h : c.Fits) (hfactor : c.client.KeepsFactor) (machine : String) :
    ofJson machine c.toJson = .ok c := by
  have hclient := Settings.ofJson_toJson h.client hfactor
  have hhosts : Json.toListOf Partner.ofJson (.list (c.hosts.map Partner.toJson)) =
      .ok c.hosts := Json.toListOf_map fun p _ => p.ofJson_toJson
  have hrules : Json.toListOf Rule.ofJson (.list (c.rules.map Rule.toJson)) = .ok c.rules :=
    Json.toListOf_map fun r _ => r.ofJson_toJson
  have hjobs : Json.toListOf Job.ofJson (.list (c.jobs.map Job.toJson)) = .ok c.jobs :=
    Json.toListOf_map fun j hj => Job.ofJson_toJson (h.jobs j hj)
  have haliases := aliasesOfJson_object h.aliases
  have hnullText : Json.toOption Json.toText .null = .ok none := rfl
  have hnullPath : Json.toOption Path.ofJson .null = .ok none := rfl
  have hpath : ∀ p : Path, Json.toOption Path.ofJson p.toJson = .ok (some p) := fun p =>
    Json.toOption_eq_ok (by simp [Path.toJson]) p.ofJson_toJson
  rcases c with ⟨client, hostId, secureId, hosts, aliases, rules, recordStore, stopFile, jobs⟩
  cases secureId <;> cases stopFile <;>
    simp [ofJson, toJson, Json.fields_object, fieldNames, Json.ofOption, Path.ofJson_toJson,
      hclient, hhosts, hrules, hjobs, haliases, hnullText, hnullPath, hpath]

theorem isWhole_toJson (c : Configuration) : Json.IsWhole c.toJson := by
  have hhosts : Json.AreWhole (c.hosts.map Partner.toJson) :=
    Json.areWhole_iff.2 (List.forall_mem_map.2 fun p _ => p.isWhole_toJson)
  have hrules : Json.AreWhole (c.rules.map Rule.toJson) :=
    Json.areWhole_iff.2 (List.forall_mem_map.2 fun r _ => r.isWhole_toJson)
  have hjobs : Json.AreWhole (c.jobs.map Job.toJson) :=
    Json.areWhole_iff.2 (List.forall_mem_map.2 fun j _ => j.isWhole_toJson)
  have haliases : Json.AreWholeMembers (c.aliases.map fun a => (a.1, Json.string a.2)) := by
    induction c.aliases with
    | nil => trivial
    | cons a aliases ih => exact ⟨trivial, ih⟩
  have hclient := c.client.isWhole_toJson
  rcases c with ⟨client, hostId, secureId, hosts, aliases, rules, recordStore, stopFile, jobs⟩
  cases secureId <;> cases stopFile <;>
    simp [toJson, Json.IsWhole, Json.AreWholeMembers, Json.ofOption, Path.toJson, hclient, hhosts,
      hrules, hjobs, haliases]

/-- The numbers of a configuration that was read have their widths, and its aliases are in order. -/
theorem fits_of_ofJson {machine : String} {j : Json} (h : ofJson machine j = .ok c) : c.Fits := by
  obtain ⟨f, -, h⟩ := Json.bind_eq_ok h
  obtain ⟨client, hclient, h⟩ := Json.bind_eq_ok h
  obtain ⟨hostId, -, h⟩ := Json.bind_eq_ok h
  obtain ⟨secureId, -, h⟩ := Json.bind_eq_ok h
  obtain ⟨hosts, -, h⟩ := Json.bind_eq_ok h
  obtain ⟨aliases, haliases, h⟩ := Json.bind_eq_ok h
  obtain ⟨rules, -, h⟩ := Json.bind_eq_ok h
  obtain ⟨recordStore, -, h⟩ := Json.bind_eq_ok h
  obtain ⟨stopFile, -, h⟩ := Json.bind_eq_ok h
  obtain ⟨jobs, hjobs, h⟩ := Json.bind_eq_ok h
  cases h
  constructor
  · rcases Json.Fields.withDefault_eq_ok hclient with rfl | ⟨value, hvalue⟩
    · exact Settings.fits_standard
    · exact Settings.fits_of_ofJson hvalue
  · obtain ⟨value, hvalue⟩ := Json.Fields.required_eq_ok hjobs
    cases value with
    | list values =>
        intro job hjob
        obtain ⟨j, -, hread⟩ := Json.exists_of_mapM_eq_ok hvalue hjob
        exact Job.fits_of_ofJson hread
    | _ => cases hvalue
  · rcases Json.Fields.withDefault_eq_ok haliases with rfl | ⟨value, hvalue⟩
    · exact List.Pairwise.nil
    · exact ascending_of_aliasesOfJson hvalue

/-! ## The common stop file -/

/-- The common stop file is given out once. -/
theorem complete_complete (c : Configuration) : c.complete.complete = c.complete := by
  unfold complete
  cases hstop : c.stopFile with
  | none => simp only [hstop]
  | some stopFile =>
      simp only [List.map_map]
      congr 1
      apply List.map_congr_left
      intro j _
      by_cases hempty : j.stopFile.isEmpty = true
      · simp [hempty]
      · simp [hempty]

theorem Fits.complete (h : c.Fits) : c.complete.Fits := by
  unfold Configuration.complete
  cases c.stopFile with
  | none => exact h
  | some stopFile =>
      refine ⟨h.client, ?_, h.aliases⟩
      intro j hj
      obtain ⟨i, hi, rfl⟩ := List.mem_map.1 hj
      have hfits := h.jobs i hi
      by_cases hempty : i.stopFile.isEmpty = true
      · rw [if_pos hempty]
        exact ⟨hfits.minimalSize, hfits.elapseMs, hfits.limitParallel, hfits.elapseObserverMs,
          hfits.blockSize⟩
      · rw [if_neg hempty]
        exact hfits

/-! ## Files -/

/-- What the content of a configuration file says, if anything, before the common stop file is given
out. -/
def ofBytes? (machine : String) (content : ByteArray) : Option Configuration :=
  (String.fromUTF8? content).bind fun text => (Json.decode (ofJson machine) text).toOption

/-- A configuration is read back from the content that is written for it. -/
theorem ofBytes?_toUTF8 (h : c.Fits) (hfactor : c.client.KeepsFactor) (machine : String) :
    ofBytes? machine c.toJson.indented.toUTF8 = some c := by
  have htext : String.fromUTF8? c.toJson.indented.toUTF8 = some c.toJson.indented :=
    dif_pos c.toJson.indented.isValidUTF8
  rw [ofBytes?, htext, Option.bind_some, Json.decode_indented c.isWhole_toJson
    (ofJson_toJson h hfactor machine)]
  rfl

theorem fits_of_ofBytes? {machine : String} {content : ByteArray}
    (h : ofBytes? machine content = some c) : c.Fits := by
  obtain ⟨text, -, hsome⟩ := Option.bind_eq_some_iff.1 h
  unfold Json.decode at hsome
  split at hsome
  · cases hsome
  · next j _ =>
      cases hread : ofJson machine j with
      | error fault =>
          rw [hread] at hsome
          cases hsome
      | ok read =>
          rw [hread] at hsome
          obtain rfl : read = c := Option.some.inj hsome
          exact fits_of_ofJson hread

end Configuration

/-! ## Loading -/

/-- Whether what is asked of files is answered by the given files. -/
def Exchange.AnsweredBy (files : (op : FileOp) → op.Answer) : Exchange → Prop
  | ⟨.files op, answer⟩ => answer = files op
  | _ => True

/-- What paths lead to among the given files. -/
def metadataOf (files : (op : FileOp) → op.Answer) (p : Path) : Except FileFault Metadata :=
  files (.metadata p)

theorem Exchange.AnsweredBy.sees {files : (op : FileOp) → op.Answer} {x : Exchange}
    (h : x.AnsweredBy files) : x.Sees (metadataOf files) := by
  rcases x with ⟨r, answer⟩
  cases r with
  | files op =>
      cases op with
      | metadata p => exact h
      | _ => trivial
  | _ => trivial

namespace Configuration

variable {files : (op : FileOp) → op.Answer} {machine : String} {p : Path} {c : Configuration}

/-- What a configuration file says, if anything, before the common stop file is given out. -/
def said? (files : (op : FileOp) → op.Answer) (machine : String) (p : Path) :
    Option Configuration :=
  (files (.read p)).toOption.bind (ofBytes? machine)

/-- Whether a configuration is what a file says, with the common stop file given out, and makes
sense. -/
structure Accepts (files : (op : FileOp) → op.Answer) (machine : String) (p : Path)
    (c : Configuration) : Prop where
  said : ∃ d, said? files machine p = some d ∧ c = d.complete
  valid : c.IsValid (metadataOf files)

/-- The text of a file is that of its content. -/
theorem yields_readText (files : (op : FileOp) → op.Answer) (p : Path) :
    Yields (Exchange.AnsweredBy files)
      (fun text => text.toOption = (files (.read p)).toOption.bind String.fromUTF8?)
      (Files.readText p) := by
  apply yields_ask
  intro answer hanswer
  have hfiles : answer = files (.read p) := hanswer
  rw [← hfiles]
  cases answer with
  | error fault => exact yields_done rfl
  | ok content =>
      cases hvalid : String.fromUTF8? content with
      | none =>
          simp only [hvalid]
          apply yields_done
          exact hvalid.symm
      | some text =>
          simp only [hvalid]
          apply yields_done
          exact hvalid.symm

/-- A configuration is loaded exactly when it is accepted. -/
theorem yields_load (files : (op : FileOp) → op.Answer) (machine : String) (p : Path) :
    Yields (Exchange.AnsweredBy files) (fun r => ∀ c, r = .ok c ↔ Accepts files machine p c)
      (load machine p) := by
  have hnothing : ∀ fault : SpoolFault, said? files machine p = none →
      ∀ c, (.error fault : Except SpoolFault Configuration) = .ok c ↔
        Accepts files machine p c := by
    intro fault hnone c
    constructor
    · intro hok
      cases hok
    · intro haccepts
      obtain ⟨d, hsaid, -⟩ := haccepts.said
      rw [hnone] at hsaid
      cases hsaid
  apply yields_bind (yields_readText files p)
  intro text htext
  have hsaid : said? files machine p =
      text.toOption.bind fun text => (Json.decode (ofJson machine) text).toOption := by
    rw [htext, said?, Option.bind_assoc]
    rfl
  cases text with
  | error fault => exact yields_done (hnothing _ hsaid)
  | ok text =>
      dsimp only
      split
      · next fault hread =>
          apply yields_done
          apply hnothing
          simp [hsaid, hread, Except.toOption]
      · next d hread =>
          have hsome : said? files machine p = some d := by
            simp [hsaid, hread, Except.toOption]
          apply yields_bind ((yields_check (metadataOf files) d.complete).weaken
            fun x hx => hx.sees)
          intro checked hchecked
          have haccepts : ∀ c, Accepts files machine p c ↔
              c = d.complete ∧ checked = .ok () := by
            intro c
            constructor
            · intro h
              obtain ⟨e, he, rfl⟩ := h.said
              obtain rfl : d = e := Option.some.inj (hsome.symm.trans he)
              exact ⟨rfl, hchecked.2 h.valid⟩
            · rintro ⟨rfl, hok⟩
              exact ⟨⟨d, hsome, rfl⟩, hchecked.1 hok⟩
          cases checked with
          | error fault =>
              apply yields_done
              intro c
              rw [haccepts]
              simp
          | ok _ =>
              apply yields_done
              intro c
              rw [haccepts]
              simp [eq_comm]

/-- Loading ends, whatever the files are. -/
theorem exists_run_load (files : (op : FileOp) → op.Answer) (machine : String) (p : Path) :
    ∃ t r, Run (load machine p) t r ∧ ∀ x ∈ t, x.AnsweredBy files := by
  apply exists_run_of_asks
  have hfiles : ∀ op, ∃ answer, Exchange.AnsweredBy files ⟨.files op, answer⟩ := fun op =>
    ⟨files op, rfl⟩
  have htext : Asks (fun r => ∃ answer, Exchange.AnsweredBy files ⟨r, answer⟩)
      (Files.readText p) := by
    apply asks_bind (asks_perform (hfiles _))
    intro content
    cases content with
    | error fault => exact asks_done _
    | ok content =>
        dsimp only
        split <;> exact asks_done _
  apply asks_bind htext
  intro text
  cases text with
  | error fault => exact asks_done _
  | ok text =>
      dsimp only
      split
      · exact asks_done _
      · apply asks_bind (asks_check (fun q => hfiles _) _)
        intro checked
        cases checked <;> exact asks_done _

/-- What is accepted is loaded. -/
theorem Accepts.exists_run (h : Accepts files machine p c) :
    ∃ t, Run (load machine p) t (.ok c) ∧ ∀ x ∈ t, x.AnsweredBy files := by
  obtain ⟨t, r, hrun, ht⟩ := exists_run_load files machine p
  have hr : r = .ok c := ((yields_load files machine p).value hrun ht c).2 h
  rw [hr] at hrun
  exact ⟨t, hrun, ht⟩

/-- A configuration stays valid as long as no state file becomes a directory. -/
theorem IsValid.of_directories {info info' : Path → Except FileFault Metadata}
    (h : c.IsValid info)
    (hstate : ∀ j ∈ c.jobs, ∀ q ∈ [j.statusFile, j.stopFile],
      LeadsToDirectory info' q → LeadsToDirectory info q) : c.IsValid info' := by
  refine ⟨h.jobs, ?_, h.apart⟩
  intro j hj
  have hvalid := h.valid j hj
  have hstatus := hstate j hj j.statusFile (by simp)
  have hstop := hstate j hj j.stopFile (by simp)
  exact
    { hvalid with
      statusFile := ⟨hvalid.statusFile.isEmpty, fun hd => hvalid.statusFile.not_directory (hstatus hd)⟩
      stopFile := ⟨hvalid.stopFile.isEmpty, fun hd => hvalid.stopFile.not_directory (hstop hd)⟩ }

/-- Saving a configuration writes its JSON form. -/
theorem writes_of_run_save {v : Trace} (h : Run (c.save p) v (.ok ())) :
    v.writes p = [c.toJson.indented.toUTF8] := by
  obtain ⟨u, saved, w, rfl, hsaved, hend⟩ := Run.bind_iff.1 h
  cases saved with
  | error fault =>
      obtain ⟨-, hfault⟩ := Run.done_iff.1 hend
      cases hfault
  | ok _ =>
      obtain ⟨rfl, -⟩ := Run.done_iff.1 hend
      rw [List.append_nil]
      rcases Program.writes_of_run_save hsaved with ⟨-, hwrites⟩ | ⟨fault, hfault, -⟩
      · exact hwrites
      · cases hfault

/-- What is written for a loaded configuration is accepted again. -/
theorem Accepts.again {files' : (op : FileOp) → op.Answer} {p' : Path}
    (h : Accepts files machine p c) (hfactor : c.client.KeepsFactor)
    (hread : files' (.read p') = .ok c.toJson.indented.toUTF8)
    (hstate : ∀ j ∈ c.jobs, ∀ q ∈ [j.statusFile, j.stopFile],
      LeadsToDirectory (metadataOf files') q → LeadsToDirectory (metadataOf files) q)
    (machine' : String) : Accepts files' machine' p' c := by
  obtain ⟨d, hsaid, hcomplete⟩ := h.said
  obtain ⟨content, -, hd⟩ := Option.bind_eq_some_iff.1 hsaid
  have hfits : c.Fits := hcomplete ▸ (fits_of_ofBytes? hd).complete
  constructor
  · refine ⟨c, ?_, ?_⟩
    · rw [said?, hread]
      exact ofBytes?_toUTF8 hfits hfactor machine'
    · rw [hcomplete, complete_complete]
  · exact h.valid.of_directories hstate

/-- A configuration that was loaded and saved is loaded again, by any machine, as long as no state
file has become a directory. -/
theorem load_saved {files files' : (op : FileOp) → op.Answer} {machine : String} {p p' : Path}
    {c : Configuration} {t v : Trace} (hload : Run (load machine p) t (.ok c))
    (hanswered : ∀ x ∈ t, x.AnsweredBy files) (hfactor : c.client.KeepsFactor)
    (hsave : Run (c.save p') v (.ok ()))
    (hread : ∃ content ∈ v.writes p', files' (.read p') = .ok content)
    (hstate : ∀ j ∈ c.jobs, ∀ q ∈ [j.statusFile, j.stopFile],
      LeadsToDirectory (metadataOf files') q → LeadsToDirectory (metadataOf files) q)
    (machine' : String) :
    (∃ u, Run (load machine' p') u (.ok c) ∧ ∀ x ∈ u, x.AnsweredBy files') ∧
      ∀ u r, Run (load machine' p') u r → (∀ x ∈ u, x.AnsweredBy files') → r = .ok c := by
  have haccepts : Accepts files machine p c :=
    ((yields_load files machine p).value hload hanswered c).1 rfl
  obtain ⟨content, hcontent, hread⟩ := hread
  rw [writes_of_run_save hsave, List.mem_singleton] at hcontent
  rw [hcontent] at hread
  have hagain := haccepts.again hfactor hread hstate machine'
  refine ⟨hagain.exists_run, ?_⟩
  intro u r hrun hu
  exact ((yields_load files' machine' p').value hrun hu c).2 hagain

/-- Two spools, one of which names no stop file. -/
def twoSpools : Configuration where
  client := .standard
  hostId := "edge"
  secureId := none
  hosts := [{ hostId := "central", address := "10.1.0.1:6666" }]
  aliases := [("hq", "central")]
  rules := [{ name := "push", mode := .send }]
  recordStore := ⟨"records.json"⟩
  stopFile := some ⟨"stop"⟩
  jobs := [
    { name := "in", directories := [⟨"in"⟩], statusFile := ⟨"state/in"⟩, rule := "push"
      hosts := ["hq"] },
    { name := "out", directories := [⟨"out"⟩], statusFile := ⟨"state/out"⟩, stopFile := ⟨"halt"⟩
      rule := "push", hosts := ["hq"] }]

/-- Files that all hold one text, and no directory. -/
def textFiles (text : String) : (op : FileOp) → op.Answer
  | .read _ => .ok text.toUTF8
  | .metadata _ => .ok ⟨.file, text.utf8ByteSize, 0⟩
  | .entries _ => .error .notDirectory
  | .write _ _ | .makeDirectories _ | .rename _ _ | .remove _ => .ok ()

theorem accepts_twoSpools :
    Accepts (textFiles twoSpools.toJson.indented) "machine" ⟨"spools.json"⟩ twoSpools.complete := by
  have hfile : ∀ q, ¬ LeadsToDirectory (metadataOf (textFiles twoSpools.toJson.indented)) q := by
    rintro q ⟨found, hfound, hkind⟩
    obtain rfl := Except.ok.inj hfound
    cases hkind
  have hfits : twoSpools.Fits :=
    { client := Settings.fits_standard
      jobs := by
        intro j hj
        rcases List.mem_cons.1 hj with rfl | hj
        · constructor <;> decide
        · obtain rfl := List.mem_singleton.1 hj
          constructor <;> decide
      aliases := List.pairwise_singleton _ _ }
  have hread : textFiles twoSpools.toJson.indented (.read ⟨"spools.json"⟩) =
      .ok twoSpools.toJson.indented.toUTF8 := rfl
  constructor
  · refine ⟨twoSpools, ?_, rfl⟩
    rw [said?, hread, Except.toOption, Option.bind_some]
    exact ofBytes?_toUTF8 hfits Settings.keepsFactor_standard "machine"
  · refine ⟨List.cons_ne_nil _ _, ?_, ?_⟩
    · intro j hj
      rcases List.mem_cons.1 hj with rfl | hj
      · exact ⟨List.cons_ne_nil _ _, List.cons_ne_nil _ _, by decide, by decide, by decide,
          ⟨by decide, hfile _⟩, ⟨by decide, hfile _⟩, rfl⟩
      · obtain rfl := List.mem_singleton.1 hj
        exact ⟨List.cons_ne_nil _ _, List.cons_ne_nil _ _, by decide, by decide, by decide,
          ⟨by decide, hfile _⟩, ⟨by decide, hfile _⟩, rfl⟩
    · exact List.pairwise_pair.2 (by decide)

theorem load_saved_twoSpools :
    ∃ u, Run (load "other" ⟨"copy.json"⟩) u (.ok twoSpools.complete) ∧
      ∀ x ∈ u, x.AnsweredBy (textFiles twoSpools.complete.toJson.indented) := by
  obtain ⟨t, hload, ht⟩ := accepts_twoSpools.exists_run
  obtain ⟨v, hsave⟩ : ∃ v, Run (twoSpools.complete.save ⟨"copy.json"⟩) v (.ok ()) :=
    exists_run_bind (Except.ok ()) (exists_run_save _ _) ⟨[], Run.done_iff.2 ⟨rfl, rfl⟩⟩
  have hfile : ∀ text q, ¬ LeadsToDirectory (metadataOf (textFiles text)) q := by
    rintro text q ⟨found, hfound, hkind⟩
    obtain rfl := Except.ok.inj hfound
    cases hkind
  exact (load_saved hload ht Settings.keepsFactor_standard hsave
    ⟨_, by rw [writes_of_run_save hsave]; exact List.mem_singleton_self _, rfl⟩
    (fun j _ q _ hd => absurd hd (hfile _ q)) "other").1

end Configuration

end Courier

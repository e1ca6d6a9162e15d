import OtelHive.Gitsync.Downloads
import OtelHive.Proofs.Gitsync.Providers

/-!
# `OtelHive.Proofs.Gitsync.Downloads`: which downloads can be cut short

A body can break off at any read. `io.ReadAll` returns the error of that read, and the JSON
decoder returns an error too, unless the value had ended before. The read loops of GitLab and
Gitea drop it, so that a part of a raw file passes for the file.

`truthful_iff`: `FetchFile` returns the content of the whole bodies or an error exactly if the
answer to the request for a raw file of GitLab or Gitea does not break off.
-/

set_option autoImplicit false

namespace OtelHive.Gitsync.Providers

open OtelHive.Lib
open OtelHive.Lib.Url

/-- `FetchFile` returns what it returns when every body is whole, or an error. -/
def Provider.Truthful (p : Provider) (dec : Decoder) (net : Network) (path sha : String) : Prop :=
  ∀ content, p.fetchFile dec net path sha = .ok content →
    p.fetchFile dec net.whole path sha = .ok content

/-- The endpoint of the raw file. -/
def GitLab.rawEndpoint (g : GitLab) (filePath : String) : Bytes :=
  g.projectPath ++ utf8 "/repository/files/" ++ pathEscape (utf8 filePath) ++ utf8 "/raw?ref=HEAD"

/-- The endpoint of the raw file. -/
def Gitea.rawEndpoint (g : Gitea) (filePath : String) : Bytes :=
  g.repoPath ++ utf8 "/raw/" ++ utf8 filePath

/-- The endpoint answers with a body that breaks off before its end. -/
def Network.BreaksOff (net : Network) (endpoint : Bytes) : Prop :=
  ∃ target ans, parseTarget endpoint = some target ∧ net.api target = .ok ans ∧
    ans.status < 400 ∧ ans.body.received ≠ ans.body.body

/-- The client reads the file raw, and its answer breaks off. -/
def Provider.RawBreaksOff (p : Provider) (net : Network) (path : String) : Prop :=
  match p with
  | .client (.github _) => False
  | .client (.gitlab g) => net.BreaksOff (g.rawEndpoint path)
  | .client (.gitea g) => net.BreaksOff (g.rawEndpoint path)
  | .http _ => False

/-! ### Requests -/

/-- `do`, with the answer on its way. -/
def Network.answer (net : Network) (name : String) (endpoint : Bytes) :
    Except ProviderError Answer :=
  match parseTarget endpoint with
  | none => .error .newRequest
  | some target =>
    match net.api target with
    | .error err => .error (.transport err)
    | .ok ans => if ans.status ≥ 400 then .error (.http name endpoint ans.status) else .ok ans

section

variable (dec : Decoder) (net : Network) (name : String) (endpoint : Bytes)

theorem request_responses :
    request (net.responses dec) name endpoint
      = (net.answer name endpoint).map (Answer.response dec) := by
  unfold request Network.answer Network.responses
  cases parseTarget endpoint with
  | none => rfl
  | some target =>
    cases hapi : net.api target with
    | error err => simp [hapi, Except.map]
    | ok ans =>
      by_cases hstatus : ans.status ≥ 400 <;> simp [hapi, Except.map, Answer.response, hstatus]

theorem answer_whole :
    net.whole.answer name endpoint = (net.answer name endpoint).map Answer.whole := by
  unfold Network.answer Network.whole
  cases parseTarget endpoint with
  | none => rfl
  | some target =>
    cases hapi : net.api target with
    | error err => simp [hapi, Except.map]
    | ok ans =>
      by_cases hstatus : ans.status ≥ 400 <;> simp [hapi, Except.map, Answer.whole, hstatus]

theorem breaksOff_iff :
    net.BreaksOff endpoint ↔
      ∃ ans, net.answer name endpoint = .ok ans ∧ ans.body.received ≠ ans.body.body := by
  unfold Network.BreaksOff Network.answer
  cases parseTarget endpoint with
  | none => simp
  | some target =>
    cases hapi : net.api target with
    | error err => simp [hapi]
    | ok ans =>
      by_cases hstatus : ans.status ≥ 400
      · have hnot : ¬ ans.status < 400 := by omega
        simp [hapi, hstatus, hnot]
      · have hlt : ans.status < 400 := by omega
        simp [hapi, hstatus, hlt]

end

/-! ### What a reader makes of a body -/

/-- The loop collects what arrived. -/
theorem body_response (dec : Decoder) (ans : Answer) :
    (ans.response dec).body = ans.body.received := by
  simp [Answer.response, readUntilError_eq, Stream.received]

/-- What the decoder decodes is what it decodes of the whole body. -/
theorem json_response_whole {dec : Decoder} {ans : Answer} {json : Json}
    (h : (ans.response dec).json = some json) : (ans.whole.response dec).json = some json := by
  obtain ⟨value, hvalue, hjson⟩ := Option.bind_eq_some_iff.mp h
  exact Option.bind_eq_some_iff.mpr ⟨value, ans.body.value_of_readValue dec.scanner hvalue, hjson⟩

/-- So is the content of a blob. -/
theorem decodeBlob_whole {dec : Decoder} {ans : Answer} {message : String} {content : Bytes}
    (h : decodeBlob message (ans.response dec) = .ok content) :
    decodeBlob message (ans.whole.response dec) = .ok content := by
  obtain ⟨text, hjson⟩ := json_of_decodeBlob h
  unfold decodeBlob at h ⊢
  rw [hjson] at h
  rw [json_response_whole hjson]
  exact h

/-! ### Providers -/

section

variable {dec : Decoder} {net : Network}

/-- A blob that was requested is the blob of the whole body. -/
theorem blob_whole {name message : String} {endpoint content : Bytes}
    (h : (do decodeBlob message (← request (net.responses dec) name endpoint)) = .ok content) :
    (do decodeBlob message (← request (net.whole.responses dec) name endpoint)) = .ok content := by
  rw [request_responses] at h ⊢
  rw [answer_whole]
  cases hanswer : net.answer name endpoint with
  | error err => rw [hanswer] at h; cases h
  | ok ans =>
    rw [hanswer] at h
    exact decodeBlob_whole h

theorem GitHub.fetchFile_whole {g : GitHub} (path : String) {sha : String} {content : Bytes}
    (h : g.fetchFile (net.responses dec) path sha = .ok content) :
    g.fetchFile (net.whole.responses dec) path sha = .ok content :=
  blob_whole h

theorem Gitea.fetchViaContents_whole {g : Gitea} {path : String} {content : Bytes}
    (h : g.fetchViaContents (net.responses dec) path = .ok content) :
    g.fetchViaContents (net.whole.responses dec) path = .ok content :=
  blob_whole h

/-- GitLab returns what arrived. -/
theorem GitLab.fetchFile_responses (g : GitLab) (path sha : String) :
    g.fetchFile (net.responses dec) path sha
      = (net.answer "gitlab" (g.rawEndpoint path)).map fun ans => ans.body.received := by
  unfold GitLab.fetchFile GitLab.rawEndpoint
  rw [request_responses]
  cases net.answer "gitlab" _ with
  | error err => rfl
  | ok ans => exact congrArg Except.ok (body_response dec ans)

theorem GitLab.fetchFile_whole (g : GitLab) (path sha : String) :
    g.fetchFile (net.whole.responses dec) path sha
      = (net.answer "gitlab" (g.rawEndpoint path)).map fun ans => ans.body.body := by
  rw [fetchFile_responses, answer_whole]
  cases net.answer "gitlab" _ with
  | error err => rfl
  | ok ans => exact congrArg Except.ok (Stream.received_whole _)

/-- Gitea returns what arrived, if there is an answer. -/
theorem Gitea.fetchFile_responses (g : Gitea) (path sha : String) :
    g.fetchFile (net.responses dec) path sha =
      match net.answer "gitea" (g.rawEndpoint path) with
      | .error _ => g.fetchViaContents (net.responses dec) path
      | .ok ans => .ok ans.body.received := by
  unfold Gitea.fetchFile Gitea.rawEndpoint
  rw [request_responses]
  cases net.answer "gitea" _ with
  | error err => rfl
  | ok ans => exact congrArg Except.ok (body_response dec ans)

theorem Gitea.fetchFile_whole (g : Gitea) (path sha : String) :
    g.fetchFile (net.whole.responses dec) path sha =
      match net.answer "gitea" (g.rawEndpoint path) with
      | .error _ => g.fetchViaContents (net.whole.responses dec) path
      | .ok ans => .ok ans.body.body := by
  rw [fetchFile_responses, answer_whole]
  cases net.answer "gitea" _ with
  | error err => rfl
  | ok ans => exact congrArg Except.ok (Stream.received_whole _)

/-- `io.ReadAll` returns the whole body or an error. -/
theorem HTTP.fetchFile_whole {h : HTTP} (path sha : String) {content : Bytes}
    (hok : h.fetchFile net path sha = .ok content) :
    h.fetchFile net.whole path sha = .ok content := by
  unfold HTTP.fetchFile at hok ⊢
  simp only [Network.whole]
  cases hget : net.get h.rawURL with
  | error err => simp [hget] at hok
  | ok ans =>
    rw [hget] at hok
    by_cases hstatus : ans.status ≥ 400
    · simp [hstatus] at hok
    · simp only [hstatus, if_false] at hok
      cases hread : readAll ans.body.stop [] ans.body.reads ans.body.last with
      | error text => rw [hread] at hok; cases hok
      | ok bytes =>
        have hbytes : bytes = content := by
          rw [hread] at hok
          exact Except.ok.inj hok
        have hbody : content = ans.body.body := hbytes ▸ ans.body.body_of_readAll hread
        simp [Except.map, Answer.whole, Stream.whole, hstatus, readAll_eq, Except.mapError, hbody]

end

theorem mapError_eq_ok {ε δ α : Type} {x : Except ε α} {f : ε → δ} {a : α} :
    x.mapError f = .ok a ↔ x = .ok a := by
  cases x <;> simp [Except.mapError]

/-- The bytes that arrived are the result. They are right exactly if they are the body. -/
theorem map_received_iff {x : Except ProviderError Answer} :
    (∀ content, (x.map fun ans => ans.body.received) = .ok content →
        (x.map fun ans => ans.body.body) = .ok content) ↔
      ¬ ∃ ans, x = .ok ans ∧ ans.body.received ≠ ans.body.body := by
  cases x with
  | error err => simp [Except.map]
  | ok ans => simp [Except.map, eq_comm]

/-- `FetchFile` returns the content of the whole bodies or an error exactly if the raw file that
GitLab or Gitea reads does not break off. -/
theorem truthful_iff (p : Provider) (dec : Decoder) (net : Network) (path sha : String) :
    p.Truthful dec net path sha ↔ ¬ p.RawBreaksOff net path := by
  unfold Provider.Truthful Provider.fetchFile Provider.RawBreaksOff
  cases p with
  | http h =>
    simp only [mapError_eq_ok, not_false_eq_true, iff_true]
    exact fun content => HTTP.fetchFile_whole path sha
  | client c =>
    simp only [mapError_eq_ok]
    cases c with
    | github g =>
      simp only [not_false_eq_true, iff_true]
      exact fun content => GitHub.fetchFile_whole path
    | gitlab g =>
      simp only [Client.fetchFile, GitLab.fetchFile_whole]
      simp only [GitLab.fetchFile_responses]
      rw [breaksOff_iff net "gitlab"]
      exact map_received_iff
    | gitea g =>
      simp only [Client.fetchFile, Gitea.fetchFile_whole]
      simp only [Gitea.fetchFile_responses]
      rw [breaksOff_iff net "gitea"]
      cases hanswer : net.answer "gitea" (g.rawEndpoint path) with
      | ok ans => simp [eq_comm]
      | error err =>
        -- The contents API is asked, and its answer goes through the decoder.
        simp only [reduceCtorEq, false_and, exists_false, not_false_eq_true, iff_true]
        exact fun content => Gitea.fetchViaContents_whole

/-! ### A connection that is lost -/

/-- The body of a configuration. -/
def collectorYAML : Bytes := utf8 "receivers:\n  otlp:\nexporters:\n  debug:\n"

/-- The connection is lost after the first line. -/
def lostConnection : Stream where
  body := collectorYAML
  reads := [utf8 "receivers:\n"]
  last := []
  stop := .failed "unexpected EOF"
  isPrefix := by decide +kernel
  atEnd := by simp

/-- A decoder. The raw files need none. -/
def noDecoder : Decoder where
  scanner := { State := Unit, start := (), step := fun _ _ => ((), .error) }
  unmarshal := fun _ => none

/-- Every request is answered, and the connection is lost. -/
def lossyNetwork : Network where
  api := fun _ => .ok { status := 200, body := lostConnection }
  get := fun _ => .ok { status := 200, body := lostConnection }

/-- The first line passes for the file. -/
theorem truncated_fetched :
    ¬ ∀ (p : Provider) (dec : Decoder) (net : Network) (path sha : String),
      p.Truthful dec net path sha := by
  intro hall
  have hfetch : (Provider.client (.gitlab ⟨"team/configs"⟩)).fetchFile noDecoder lossyNetwork
      "configs/a.yaml" "aa" = .ok (utf8 "receivers:\n") := by decide +kernel
  have hwhole := hall (.client (.gitlab ⟨"team/configs"⟩)) noDecoder lossyNetwork
    "configs/a.yaml" "aa" _ hfetch
  revert hwhole
  decide +kernel

end OtelHive.Gitsync.Providers

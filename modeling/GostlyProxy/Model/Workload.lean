/-
Workload classification (`workload_class.rs`): which of four populations
a request comes from, by its headers and its User-Agent. First match wins,
in the order CI, agent, human, unknown.
-/
import GostlyProxy.Model.Json

namespace GostlyProxy

open Lib

inductive WorkloadClass where
  | human
  | ci
  | agent
  | unknown
  deriving DecidableEq, Repr

def WorkloadClass.asStr : WorkloadClass → Text
  | .human => "human"
  | .ci => "ci"
  | .agent => "agent"
  | .unknown => "unknown"

/-- What a line without the field gets. -/
def defaultWorkloadClass : Text := WorkloadClass.unknown.asStr

-- ============================================================= rule data

def ciUserAgents : List Text := ["Bamboo", "BuildKite", "Buildkite", "CircleCI",
  "Drone", "Bitrise", "GitHub-Hookshot", "GitLab-Runner", "Jenkins", "TeamCity",
  "Travis"]

def ciMarkerHeaders : List Text := ["x-ci-build-id", "gitlab-ci-build-id",
  "github-actions-job", "x-ci"]

def agentUserAgents : List Text := ["aider", "anthropic-ai/sdk", "claude-code",
  "cline", "continue", "copilot-cli", "cursor", "github-copilot", "langchain/",
  "llamaindex/", "OpenAI/", "replit-agent", "roo-code", "windsurf"]

def humanBrowserSignatures : List Text := ["Chrome/", "Edge/", "Firefox/",
  "Mozilla/", "Safari/"]

def explicitOverrideHeader : Text := "x-gostly-workload-class"
def explicitOverrideAgentValue : Text := "agent"
def headlessAgentRuntimeHeader : Text := "x-runtime"
def headlessAgentRuntimeValue : Text := "nodejs"

-- ============================================================= inference

/-- `str::eq_ignore_ascii_case`. -/
def eqIgnoreAsciiCase (a b : Text) : Bool :=
  a.map toAsciiLowercase = b.map toAsciiLowercase

def hasAnyHeader (headers : HeaderMap) (keys : List Text) : Bool :=
  keys.any fun k => headers.containsKey k

def matchesAnySubstring (env : Externals) (haystackLower : Text)
    (needles : List Text) : Bool :=
  needles.any fun n => Text.contains haystackLower (env.toLowercase n)

def headerValueEq (headers : HeaderMap) (name value : Text) : Bool :=
  ((headers.get name).bind HeaderValue.toStr).any fun v => eqIgnoreAsciiCase v value

def explicitAgentOverride (headers : HeaderMap) : Bool :=
  headerValueEq headers explicitOverrideHeader explicitOverrideAgentValue

def inferWorkloadClass (env : Externals) (headers : HeaderMap) (ua : Text) :
    WorkloadClass :=
  let uaLower := env.toLowercase ua
  if hasAnyHeader headers ciMarkerHeaders then .ci
  else if matchesAnySubstring env uaLower ciUserAgents then .ci
  else if explicitAgentOverride headers then .agent
  else if matchesAnySubstring env uaLower agentUserAgents then .agent
  else if ua.isEmpty && headerValueEq headers headlessAgentRuntimeHeader
      headlessAgentRuntimeValue then .agent
  else if matchesAnySubstring env uaLower humanBrowserSignatures then .human
  else .unknown

end GostlyProxy

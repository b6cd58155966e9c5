import Entitlement.Host.Machine

-- Surroundings that follow a script: which commands leave what behind, and what the one server that can be reached
-- answers, in its order. What was run and sent is kept.
namespace Entitlement.Host

structure Cue where
  text : String
  -- How often the cue may still be taken; without a number, always.
  left : Option Nat
  result : Except Obstacle CommandOutput

inductive Deed where
  | command (command : Command)
  | exchange (exchange : Http.Exchange)

structure Script where
  cues : List Cue
  -- The server, which may also be a proxy. Without one, nothing can be reached.
  server : Option Url
  -- What is answered to the next requests; nothing stands for a connection that ends without a response.
  responses : List (Option Http.Response)
  deeds : List Deed

namespace Script

-- Takes the first cue for a line that may still be taken. A command without a cue succeeds silently.
def takeCue (line : String) : List Cue → List Cue × Except Obstacle CommandOutput
  | [] => ([], .ok ⟨0, [], []⟩)
  | cue :: rest =>
    if Text.occurs cue.text line && cue.left != some 0 then
      ({ cue with left := cue.left.map (· - 1) } :: rest, cue.result)
    else
      let (rest, result) := takeCue line rest
      (cue :: rest, result)

def run (command : Command) : StateM Script (Except Obstacle CommandOutput) := fun s =>
  let (cues, result) := takeCue command.line s.cues
  (result, { s with cues := cues, deeds := .command command :: s.deeds })

def leadsTo (server url : Url) : Bool :=
  url.scheme == server.scheme && url.host == server.host && url.effectivePort == server.effectivePort

def outOfAnswers : Http.Response := { status := 503, headers := [], body := [] }

-- A request arrives if its address, or that of its proxy, leads to the server. Only requests in plain text can
-- be answered.
def exchange (e : Http.Exchange) : StateM Script (Option Http.Response) := fun s =>
  let receiver := (e.proxy.map (·.address)).getD e.request.url
  if s.server.any (leadsTo · receiver) && e.request.url.scheme == "http" then
    let (response, rest) := match s.responses with
      | [] => (some outOfAnswers, [])
      | response :: rest => (response, rest)
    (response, { s with responses := rest, deeds := .exchange e :: s.deeds })
  else (none, s)

def surroundings : Surroundings Script := ⟨run, exchange⟩

end Script
end Entitlement.Host

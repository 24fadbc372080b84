/-
  Demo/SandboxSessions.lean --- how long a sandbox lasts.

  Visitors open and replace sandboxes, calls fail, time passes and other requests change the
  database.  A sandbox that a visitor was given lasts until its eight hours have passed or a
  request with its cookie has replaced it.

  Source: `apps/api/src/demo/sandbox.ts`.
-/
import LuxLedger.Demo.SandboxReplace

set_option autoImplicit false

namespace LuxLedger.Demo

open Foundation Relational Schema Awaited Javascript
open Http (FixedWindowLimiter)

/-! ## Reading a session -/

/-- `/^[a-f0-9]{64}$/`. -/
def isSecret (secret : String) : Bool :=
  secret.length = 64 && secret.toList.all fun c =>
    ('a' ≤ c && c ≤ 'f') || ('0' ≤ c && c ≤ '9')

/-- The server between two requests. -/
structure SandboxServer where
  db : DemoDb
  /-- the `limiter` of `registerSandbox` -/
  limiter : FixedWindowLimiter

/-- `POST /demo/session` with what it draws, and its calls that fail. -/
structure SessionPost where
  request : SandboxRequest
  drawn : Drawn
  schedule : Schedule

/-- What a POST answers, and the server that it leaves. -/
def SandboxServer.post (host : SandboxHost) (server : SandboxServer) (p : SessionPost) :
    Except DemoError SandboxReply × SandboxServer :=
  let (limiter, program) := postSession host server.limiter server.db.now p.request p.drawn
  let (reply, db) := program.run p.schedule server.db
  (reply, ⟨db, limiter⟩)

/-- What happens at the server. -/
inductive SandboxEvent where
  | post (p : SessionPost)
  | wait (ms : Nat)
  /-- another request has left the database like this -/
  | elsewhere (db : DemoDb)

/-- The server after an event. -/
def SandboxServer.step (host : SandboxHost) (server : SandboxServer) :
    SandboxEvent → SandboxServer
  | .post p => (server.post host p).2
  | .wait ms => { server with db := { server.db with now := server.db.now + ms } }
  | .elsewhere db => { server with db }

/-- The server after a log of events. -/
def SandboxServer.after (host : SandboxHost) (server : SandboxServer) (log : List SandboxEvent) :
    SandboxServer :=
  log.foldl (SandboxServer.step host) server

/-- Other requests touch neither the sessions nor their keys. -/
structure LeavesSessions (db db' : DemoDb) : Prop where
  store : SandboxStore db'
  sessions : db'.demoSessions = db.demoSessions
  now : db'.now = db.now
  keys : ∀ s ∈ db.demoSessions, ∀ k, k.id = s.apiKeyId → (k ∈ db'.apiKeys ↔ k ∈ db.apiKeys)

/-- What is drawn is 32 bytes in hexadecimal, and new. -/
def Possible (host : SandboxHost) (server : SandboxServer) : SandboxEvent → Prop
  | .post p => DrawnNew host p.request p.drawn server.db ∧ isSecret p.drawn.secret = true
  | .wait _ => True
  | .elsewhere db => LeavesSessions server.db db

section Post

variable {host : SandboxHost} {request : SandboxRequest} {drawn : Drawn} {schedule : Schedule}
  {db s : DemoDb}

/-- The sessions of before, and at most the new one. -/
def Grown (host : SandboxHost) (drawn : Drawn) (db s : DemoDb) : Prop :=
  s.now = db.now ∧ (s.demoSessions = db.demoSessions ∨
    s.demoSessions = db.demoSessions ++ [newSession host drawn db])

theorem Grown.revoke {ids : List Uuid} (h : Grown host drawn db s) :
    Grown host drawn db (s.revoke ids) := h

end Post

/-! ## One session -/

section Session

variable {host : SandboxHost} {server : SandboxServer} {p : SessionPost} {row : DemoSession}
  {secret : String} {log : List SandboxEvent}

end Session

/-! ## The lifetime of a sandbox -/

section Lifetime

variable {host : SandboxHost} {server : SandboxServer} {p : SessionPost} {row : DemoSession}
  {secret cookie : String} {body : SessionPayload} {visitor : SandboxRequest} {db : DemoDb}

end Lifetime

section Sample

end Sample

end LuxLedger.Demo

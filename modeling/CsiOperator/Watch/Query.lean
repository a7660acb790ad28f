import CsiOperator.Resource.FeatureGate
import CsiOperator.Resource.Infrastructure
import CsiOperator.Resource.Storage

/-! What the operator watches: its storage, and the objects that decide which drivers run. -/

namespace CsiOperator.Watch

/-- The types of the watched objects. -/
def types : List ResourceType :=
  [Storage.type, Infrastructure.type, FeatureGate.type]

/-- After how many seconds a server ends a watch, which is before the operator would give it up. -/
def timeoutSeconds : Nat := 25

/-- How many objects are listed at a time. -/
def pageSize : Nat := 500

/-- The parameter that selects the only object of a type. -/
def selector : String × String :=
  ("fieldSelector", "metadata.name=" ++ clusterName)

/-- The parameters with which objects are listed. -/
def listParameters : List (String × String) :=
  [selector, ("limit", Text.decimal pageSize)]

/-- The parameters with which changes after a version are watched. -/
def watchParameters (version : String) : List (String × String) :=
  -- The parameters stand in the order of their names.
  [("allowWatchBookmarks", "true"), selector, ("resourceVersion", version),
    ("timeoutSeconds", Text.decimal timeoutSeconds), ("watch", "true")]

end CsiOperator.Watch

import NetInventory.Control.Route

/-! A client of the control service, as far as it works without a connection: where its requests
go, and what it says if they do not get there.
-/

namespace NetInventory.Control

/-- A client of the service. -/
structure Client where
  /-- What the addresses of requests begin with. -/
  base : String
deriving DecidableEq, Repr

namespace Client

/-- A client of the service at an address. Slashes at its end do not count. -/
def ofBase (base : String) : Client :=
  ⟨.ofList (base.toList.reverse.dropWhile (· = '/')).reverse⟩

/-- The address of a request on a route. -/
def url (route : Route) (client : Client) : String :=
  client.base ++ route.path

/-- What the client says if a request on a route does not get through. -/
def unreachedMessage (route : Route) (client : Client) : String :=
  "failed to reach " ++ client.url route

end Client

end NetInventory.Control

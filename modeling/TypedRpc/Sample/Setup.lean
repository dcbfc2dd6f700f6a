import TypedRpc.Sample.Catalog
import TypedRpc.Sample.Greeter
import TypedRpc.Sample.Payments
import TypedRpc.Sample.Playlists
import TypedRpc.Service

/-!
The sample service: six handlers in five modules below a root module, together with the records that they use.
-/

namespace TypedRpc.Sample

open TypedRpc.Wire

/-- The records of the sample service, with the given root module. -/
def records (root : String) : Declarations :=
  declarations (greeterRecords (root ++ "::greeter") ++ playlistRecords (root ++ "::playlists")
    ++ catalogRecords (root ++ "::catalog") ++ statusRecords (root ++ "::status")
    ++ paymentRecords (root ++ "::payments"))

/-- Registers the handlers of the sample service. -/
def setup (root version : String) : Setup Unit := do
  let declared := records root
  let record (name : String) : Shape := .record (root ++ "::" ++ name)
  let empty (_ : Value) : Unit := ()
  let hello' := record "greeter::Hello"
  let greeting := record "greeter::Greeting"
  Setup.handler root "greeter::hello" (.ofShapes declared hello' greeting)
    (.shaped declared hello' Hello.ofWire Greeting.toWire hello)
  Setup.handler root "greeter::Server::greet" (.ofShapes declared hello' greeting)
    (.shaped declared hello' Hello.ofWire Greeting.toWire greet)
  let wanted := record "playlists::GetPlaylists"
  Setup.handler root "playlists::get_playlists" (.ofShapes declared wanted (.list (record "playlists::Playlist")))
    (.shaped declared wanted GetPlaylists.ofWire (fun all => .list (all.map Playlist.toWire)) getPlaylists)
  Setup.handler root "catalog::tree" (.ofShapes declared .empty (record "catalog::Category"))
    (.shaped declared .empty empty Category.toWire tree)
  Setup.handler root "status::health" (.ofShapes declared .empty (record "status::Health"))
    (.shaped declared .empty empty Health.toWire (health version))
  let charged := record "payments::Charge"
  Setup.handler root "payments::charge" (.ofShapes declared charged (record "payments::Receipt"))
    (.shaped declared charged Charge.ofWire Receipt.toWire charge)

end TypedRpc.Sample

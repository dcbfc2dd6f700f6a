import TypedRpc.Handler.Shaped

/-! The sample handler that lists playlists. -/

namespace TypedRpc.Sample

open TypedRpc.Wire

/-- Whose playlists are wanted, and at most how many. -/
structure GetPlaylists where
  ownerId : String
  limit : Option Nat

/-- A track; the artist need not be known. -/
structure Track where
  title : String
  seconds : Nat
  artist : Option String

/-- A playlist. -/
structure Playlist where
  id : Nat
  title : String
  tracks : List Track
  createdAt : String

/-- Reads whose playlists are wanted. -/
def GetPlaylists.ofWire (value : Value) : GetPlaylists :=
  ⟨(value.member "ownerId").textOr, (value.member "limit").payload?.map (·.integerOr.toNat)⟩

/-- The track as it travels, without an artist that is not known. -/
def Track.toWire (track : Track) : Value :=
  .record ([("title", .text track.title), ("seconds", .integer track.seconds)]
    ++ (track.artist.map fun artist => ("artist", Value.text artist)).toList)

/-- The playlist as it travels. -/
def Playlist.toWire (playlist : Playlist) : Value :=
  .record [("id", .integer playlist.id), ("title", .text playlist.title),
    ("tracks", .list (playlist.tracks.map Track.toWire)), ("createdAt", .text playlist.createdAt)]

/-- All playlists of an owner. -/
def playlistsOf (ownerId : String) : List Playlist :=
  let createdAt := "2023-11-14T22:13:20Z"
  [
    ⟨1, ownerId ++ "'s favourites", [⟨"Intro", 95, none⟩], createdAt⟩,
    ⟨2, "Late night", [], createdAt⟩
  ]

/-- The playlists that are wanted. -/
def getPlaylists (_ : Context) (input : GetPlaylists) : Outcome (List Playlist) :=
  let all := playlistsOf input.ownerId
  .value (all.take (input.limit.getD all.length))

/-- The records of the playlists, in a module of the given path. -/
def playlistRecords (path : String) : List RecordDecl :=
  [
    ⟨path ++ "::GetPlaylists", "GetPlaylists",
      [.plain "ownerId" .text, ⟨"limit", .option (.natural 32), some .absent, false⟩], false, false⟩,
    ⟨path ++ "::Playlist", "Playlist",
      [.plain "id" (.natural 64), .plain "title" .text, .plain "tracks" (.list (.record (path ++ "::Track"))),
        .plain "createdAt" .timestamp], false, false⟩,
    ⟨path ++ "::Track", "Track",
      [.plain "title" .text, .plain "seconds" (.natural 32), ⟨"artist", .option .text, none, true⟩], false, false⟩
  ]

end TypedRpc.Sample

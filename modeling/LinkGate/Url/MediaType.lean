/-!
The media types that a data URL in a link may have. None of them can carry a script.
-/

namespace LinkGate.Url

/-- The audio types, each after `audio/`. -/
def audioSubtypes : List String :=
  ["3gpp2", "3gpp", "aac", "midi", "mp3", "mp4", "mpeg", "oga", "ogg", "opus", "x-m4a",
    "x-matroska", "x-wav", "wav", "webm"]

/-- The image types, each after `image/`. -/
def imageSubtypes : List String :=
  ["bmp", "gif", "jpeg", "jpg", "png", "tiff", "webp", "x-icon"]

/-- The video types, each after `video/`. -/
def videoSubtypes : List String :=
  ["mpeg", "mp4", "ogg", "webm", "x-matroska"]

/-- The media types that may be linked, in lower case. -/
def allowedMediaTypes : List (List Char) :=
  audioSubtypes.map (fun t => "audio/".toList ++ t.toList) ++
    imageSubtypes.map (fun t => "image/".toList ++ t.toList) ++
    videoSubtypes.map (fun t => "video/".toList ++ t.toList)

end LinkGate.Url

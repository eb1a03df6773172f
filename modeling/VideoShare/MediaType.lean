import VideoShare.Text.Case
import VideoShare.Text.Pieces

/-!
# Media types

The media type of a file, read off the last extension of its name in any case. An extension that only says how the file is
compressed is taken off first, and one that abbreviates two extensions stands for both. A name whose only point is at its
beginning has no extension. The name may be that of a location, whose scheme is left out; a location that holds its data says its
type itself.
-/

namespace VideoShare.MediaType

/-- The media types of the extensions, in lower case. -/
def ofExtension : List (String × String) :=
  [(".js", "application/javascript"), (".mjs", "application/javascript"), (".json", "application/json"),
    (".webmanifest", "application/manifest+json"), (".doc", "application/msword"), (".dot", "application/msword"),
    (".wiz", "application/msword"), (".nq", "application/n-quads"), (".nt", "application/n-triples"),
    (".bin", "application/octet-stream"), (".a", "application/octet-stream"), (".dll", "application/octet-stream"),
    (".exe", "application/octet-stream"), (".o", "application/octet-stream"), (".obj", "application/octet-stream"),
    (".so", "application/octet-stream"), (".oda", "application/oda"), (".pdf", "application/pdf"),
    (".p7c", "application/pkcs7-mime"), (".ps", "application/postscript"), (".ai", "application/postscript"),
    (".eps", "application/postscript"), (".trig", "application/trig"), (".m3u", "application/vnd.apple.mpegurl"),
    (".m3u8", "application/vnd.apple.mpegurl"), (".xls", "application/vnd.ms-excel"),
    (".xlb", "application/vnd.ms-excel"), (".ppt", "application/vnd.ms-powerpoint"),
    (".pot", "application/vnd.ms-powerpoint"), (".ppa", "application/vnd.ms-powerpoint"),
    (".pps", "application/vnd.ms-powerpoint"), (".pwz", "application/vnd.ms-powerpoint"),
    (".wasm", "application/wasm"), (".bcpio", "application/x-bcpio"), (".cpio", "application/x-cpio"),
    (".csh", "application/x-csh"), (".dvi", "application/x-dvi"), (".gtar", "application/x-gtar"),
    (".hdf", "application/x-hdf"), (".h5", "application/x-hdf5"), (".latex", "application/x-latex"),
    (".mif", "application/x-mif"), (".cdf", "application/x-netcdf"), (".nc", "application/x-netcdf"),
    (".p12", "application/x-pkcs12"), (".pfx", "application/x-pkcs12"), (".ram", "application/x-pn-realaudio"),
    (".pyc", "application/x-python-code"), (".pyo", "application/x-python-code"), (".sh", "application/x-sh"),
    (".shar", "application/x-shar"), (".swf", "application/x-shockwave-flash"), (".sv4cpio", "application/x-sv4cpio"),
    (".sv4crc", "application/x-sv4crc"), (".tar", "application/x-tar"), (".tcl", "application/x-tcl"),
    (".tex", "application/x-tex"), (".texi", "application/x-texinfo"), (".texinfo", "application/x-texinfo"),
    (".roff", "application/x-troff"), (".t", "application/x-troff"), (".tr", "application/x-troff"),
    (".man", "application/x-troff-man"), (".me", "application/x-troff-me"), (".ms", "application/x-troff-ms"),
    (".ustar", "application/x-ustar"), (".src", "application/x-wais-source"), (".xsl", "application/xml"),
    (".rdf", "application/xml"), (".wsdl", "application/xml"), (".xpdl", "application/xml"),
    (".zip", "application/zip"), (".3gp", "audio/3gpp"), (".3gpp", "audio/3gpp"), (".3g2", "audio/3gpp2"),
    (".3gpp2", "audio/3gpp2"), (".aac", "audio/aac"), (".adts", "audio/aac"), (".loas", "audio/aac"),
    (".ass", "audio/aac"), (".au", "audio/basic"), (".snd", "audio/basic"), (".mp3", "audio/mpeg"),
    (".mp2", "audio/mpeg"), (".opus", "audio/opus"), (".aif", "audio/x-aiff"), (".aifc", "audio/x-aiff"),
    (".aiff", "audio/x-aiff"), (".ra", "audio/x-pn-realaudio"), (".wav", "audio/x-wav"), (".avif", "image/avif"),
    (".bmp", "image/bmp"), (".gif", "image/gif"), (".ief", "image/ief"), (".jpg", "image/jpeg"),
    (".jpe", "image/jpeg"), (".jpeg", "image/jpeg"), (".heic", "image/heic"), (".heif", "image/heif"),
    (".png", "image/png"), (".svg", "image/svg+xml"), (".tiff", "image/tiff"), (".tif", "image/tiff"),
    (".ico", "image/vnd.microsoft.icon"), (".ras", "image/x-cmu-raster"), (".pnm", "image/x-portable-anymap"),
    (".pbm", "image/x-portable-bitmap"), (".pgm", "image/x-portable-graymap"), (".ppm", "image/x-portable-pixmap"),
    (".rgb", "image/x-rgb"), (".xbm", "image/x-xbitmap"), (".xpm", "image/x-xpixmap"),
    (".xwd", "image/x-xwindowdump"), (".eml", "message/rfc822"), (".mht", "message/rfc822"),
    (".mhtml", "message/rfc822"), (".nws", "message/rfc822"), (".css", "text/css"), (".csv", "text/csv"),
    (".html", "text/html"), (".htm", "text/html"), (".n3", "text/n3"), (".txt", "text/plain"), (".bat", "text/plain"),
    (".c", "text/plain"), (".h", "text/plain"), (".ksh", "text/plain"), (".pl", "text/plain"), (".srt", "text/plain"),
    (".rtx", "text/richtext"), (".tsv", "text/tab-separated-values"), (".vtt", "text/vtt"), (".py", "text/x-python"),
    (".etx", "text/x-setext"), (".sgm", "text/x-sgml"), (".sgml", "text/x-sgml"), (".vcf", "text/x-vcard"),
    (".xml", "text/xml"), (".mp4", "video/mp4"), (".mpeg", "video/mpeg"), (".m1v", "video/mpeg"),
    (".mpa", "video/mpeg"), (".mpe", "video/mpeg"), (".mpg", "video/mpeg"), (".mov", "video/quicktime"),
    (".qt", "video/quicktime"), (".webm", "video/webm"), (".avi", "video/x-msvideo"), (".movie", "video/x-sgi-movie")]

/-- The extensions that stand for two. -/
def abbreviations : List (String × String) :=
  [(".svgz", ".svg.gz"), (".tgz", ".tar.gz"), (".taz", ".tar.gz"), (".tz", ".tar.gz"), (".tbz2", ".tar.bz2"), (".txz", ".tar.xz")]

/-- The extensions of compressed files, in the case written here. -/
def compressions : List String := [".gz", ".Z", ".bz2", ".xz", ".br"]

/-- The type of a file of which nothing is known. -/
def unknown : String := "application/octet-stream"

/-! ## Extensions -/

/-- A name cut before its extension, which begins with a point; the extension is empty when nothing but points stands before it
in the last part of the path. -/
def splitExtension (cs : List Char) : List Char × List Char :=
  let reversed := cs.reverse
  let ending := reversed.takeWhile fun c => c != '.' && c != '/'
  match reversed.drop ending.length with
  | '.' :: before =>
    if (before.takeWhile (· != '/')).all (· == '.') then (cs, [])
    else (before.reverse, '.' :: ending.reverse)
  | _ => (cs, [])

/-- The extension that says what a file is, behind those that only say how it is compressed. -/
def extension (cs : List Char) : String :=
  let (base, ext) := splitExtension cs
  let (base, ext) :=
    match abbreviations.lookup (Text.lower (String.ofList ext)) with
    | some full => splitExtension (base ++ full.toList)
    | none => (base, ext)
  let ext := if compressions.contains (String.ofList ext) then (splitExtension base).2 else ext
  Text.lower (String.ofList ext)

/-! ## Locations -/

/-- A location: its scheme in lower case, and what follows it. -/
structure Location where
  scheme : String
  rest : List Char
  deriving DecidableEq, Repr

/-- Reads a location: a scheme in which there is no slash, a colon, and anything. -/
def readLocation? (cs : List Char) : Option Location :=
  let scheme := cs.takeWhile fun c => c != ':' && c != '/'
  match cs.drop scheme.length with
  | ':' :: rest => if scheme.isEmpty then none else some ⟨Text.lower (String.ofList scheme), rest⟩
  | _ => none

/-- The type that a location with its data in it says, none when it has no data. -/
def ofData? (path : List Char) : Option String :=
  if path.contains ',' then
    let type := Text.beforeFirst ';' (Text.beforeFirst ',' path)
    some (if type.contains '=' || !type.contains '/' then "text/plain" else String.ofList type)
  else none

/-- The media type of a file by its name or its location. -/
def ofPath (path : String) : String :=
  let found :=
    match readLocation? path.toList with
    | some ⟨"data", data⟩ => ofData? data
    | some l => ofExtension.lookup (extension l.rest)
    | none => ofExtension.lookup (extension path.toList)
  match found with
  | some type => if type = "" then unknown else type
  | none => unknown

/-- A media type as it stands in an answer: a text says how it is encoded. -/
def header (type : String) : String := if Text.startsWith type "text/" then type ++ "; charset=utf-8" else type

end VideoShare.MediaType

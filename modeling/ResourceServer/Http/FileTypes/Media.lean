/-
Media types of what is seen and heard, with the extensions of their files.
-/

namespace ResourceServer.Http

/-- types of fonts -/
def fontTypes : List (String × List String) := [
  ("font/ttf", ["ttf"]),
  ("font/woff2", ["woff2"]),
  ("application/font-woff", ["woff"]),
  ("application/font-sfnt", ["otf"]),
  ("font/collection", ["ttc"]),
  ("application/font-tdpfr", ["pfr"]),
  ("application/vnd.ms-fontobject", ["eot"]),
  ("application/x-font-bdf", ["bdf"]),
  ("application/x-font-ghostscript", ["gsf"]),
  ("application/x-font-linux-psf", ["psf"]),
  ("application/x-font-pcf", ["pcf"]),
  ("application/x-font-snf", ["snf"]),
  ("application/x-font-type1", ["pfa"])]

/-- types of images -/
def imageTypes : List (String × List String) := [
  ("image/apng", ["apng"]),
  ("image/avif", ["avif"]),
  ("image/avif-sequence", ["avifs"]),
  ("image/bmp", ["bmp", "dib"]),
  ("image/cgm", ["cgm"]),
  ("image/cis-cod", ["cod"]),
  ("image/g3fax", ["g3"]),
  ("image/heic", ["heic"]),
  ("image/heic-sequence", ["heics"]),
  ("image/heif", ["heif"]),
  ("image/heif-sequence", ["heifs"]),
  ("image/ief", ["ief"]),
  ("image/jp2", ["jp2", "jpg2"]),
  ("image/jpm", ["jpm"]),
  ("image/jpx", ["jpx", "jpf"]),
  ("image/jxl", ["jxl"]),
  ("image/ktx", ["ktx"]),
  ("image/pict", ["pct", "pic", "pict"]),
  ("image/prs.btif", ["btif"]),
  ("image/sgi", ["sgi"]),
  ("image/tiff", ["tif", "tiff"]),
  ("image/vnd.dece.graphic", ["uvi", "uvvi", "uvg", "uvvg"]),
  ("image/vnd.djvu", ["djvu", "djv"]),
  ("image/vnd.fastbidsheet", ["fbs"]),
  ("image/vnd.fpx", ["fpx"]),
  ("image/vnd.fst", ["fst"]),
  ("image/vnd.fujixerox.edmics-mmr", ["mmr"]),
  ("image/vnd.fujixerox.edmics-rlc", ["rlc"]),
  ("image/vnd.ms-modi", ["mdi"]),
  ("image/vnd.ms-photo", ["wdp"]),
  ("image/vnd.net-fpx", ["npx"]),
  ("image/vnd.rn-realflash", ["rf"]),
  ("image/vnd.wap.wbmp", ["wbmp"]),
  ("image/vnd.xiff", ["xif"]),
  ("image/x-3ds", ["3ds"]),
  ("image/x-adobe-dng", ["dng"]),
  ("image/x-canon-cr2", ["cr2"]),
  ("image/x-canon-cr3", ["cr3"]),
  ("image/x-canon-crw", ["crw"]),
  ("image/x-cmu-raster", ["ras"]),
  ("image/x-cmx", ["cmx"]),
  ("image/x-freehand", ["fh", "fhc", "fh4", "fh5", "fh7"]),
  ("image/x-fuji-raf", ["raf"]),
  ("image/x-jg", ["art"]),
  ("image/x-jng", ["jng"]),
  ("image/x-kodak-k25", ["k25"]),
  ("image/x-kodak-kdc", ["kdc"]),
  ("image/x-macpaint", ["mac", "pnt", "pntg"]),
  ("image/x-minolta-mrw", ["mrw"]),
  ("image/x-mrsid-image", ["sid"]),
  ("image/x-nikon-nef", ["nef"]),
  ("image/x-nikon-nrw", ["nrw"]),
  ("image/x-olympus-orf", ["orf"]),
  ("image/x-panasonic-rw", ["raw"]),
  ("image/x-panasonic-rw2", ["rw2", "rwl"]),
  ("image/x-pentax-pef", ["pef"]),
  ("image/x-portable-anymap", ["pnm"]),
  ("image/x-portable-bitmap", ["pbm"]),
  ("image/x-portable-graymap", ["pgm"]),
  ("image/x-portable-pixmap", ["ppm"]),
  ("image/x-quicktime", ["qti", "qtif"]),
  ("image/x-rgb", ["rgb"]),
  ("image/x-sigma-x3f", ["x3f"]),
  ("image/x-sony-arw", ["arw"]),
  ("image/x-sony-sr2", ["sr2"]),
  ("image/x-tga", ["tga"]),
  ("image/x-xbitmap", ["xbm"]),
  ("image/x-xpixmap", ["xpm"]),
  ("image/x-xwindowdump", ["xwd"])]

/-- types of sounds -/
def audioTypes : List (String × List String) := [
  ("audio/aac", ["aac", "adts"]),
  ("audio/ac3", ["ac3"]),
  ("audio/aiff", ["aif", "aifc", "aiff", "cdda"]),
  ("audio/annodex", ["axa"]),
  ("audio/audible", ["aa"]),
  ("audio/basic", ["au", "snd"]),
  ("audio/flac", ["flac"]),
  ("audio/m4a", ["m4a"]),
  ("audio/m4b", ["m4b"]),
  ("audio/m4p", ["m4p"]),
  ("audio/mid", ["mid", "midi", "rmi"]),
  ("audio/midi", ["kar"]),
  ("audio/mp4", ["mp4a"]),
  ("audio/mpeg", ["mp3", "mp2", "mpga", "mp2a", "m2a", "m3a"]),
  ("audio/ogg", ["oga", "ogg", "opus", "spx"]),
  ("audio/s3m", ["s3m"]),
  ("audio/scpls", ["pls"]),
  ("audio/silk", ["sil"]),
  ("audio/vnd.audible.aax", ["aax"]),
  ("audio/vnd.dece.audio", ["uva", "uvva"]),
  ("audio/vnd.digital-winds", ["eol"]),
  ("audio/vnd.dlna.adts", ["adt"]),
  ("audio/vnd.dra", ["dra"]),
  ("audio/vnd.dts", ["dts"]),
  ("audio/vnd.dts.hd", ["dtshd"]),
  ("audio/vnd.lucent.voice", ["lvp"]),
  ("audio/vnd.ms-playready.media.pya", ["pya"]),
  ("audio/vnd.nuera.ecelp4800", ["ecelp4800"]),
  ("audio/vnd.nuera.ecelp7470", ["ecelp7470"]),
  ("audio/vnd.nuera.ecelp9600", ["ecelp9600"]),
  ("audio/vnd.rip", ["rip"]),
  ("audio/wav", ["wav", "wave"]),
  ("audio/webm", ["weba"]),
  ("audio/x-caf", ["caf"]),
  ("audio/x-gsm", ["gsm"]),
  ("audio/x-m4r", ["m4r"]),
  ("audio/x-matroska", ["mka"]),
  ("audio/x-mpegurl", ["m3u", "m3u8"]),
  ("audio/x-ms-wax", ["wax"]),
  ("audio/x-ms-wma", ["wma"]),
  ("audio/x-pn-realaudio", ["ra", "ram"]),
  ("audio/x-pn-realaudio-plugin", ["rpm"]),
  ("audio/x-sd2", ["sd2"]),
  ("audio/x-smd", ["smd", "smx", "smz"]),
  ("audio/xm", ["xm"])]

/-- types of films -/
def videoTypes : List (String × List String) := [
  ("video/3gpp", ["3gp", "3gpp"]),
  ("video/3gpp2", ["3g2", "3gp2"]),
  ("video/annodex", ["axv"]),
  ("video/divx", ["divx"]),
  ("video/h261", ["h261"]),
  ("video/h263", ["h263"]),
  ("video/h264", ["h264"]),
  ("video/jpeg", ["jpgv"]),
  ("video/jpm", ["jpgm"]),
  ("video/mj2", ["mj2", "mjp2"]),
  ("video/mpeg", ["m1v", "m2v", "mod", "mp2v", "mpa", "mpe", "mpeg", "mpg", "mpv2", "vbk"]),
  ("video/ogg", ["ogv"]),
  ("video/quicktime", ["mov", "mqv", "qt"]),
  ("video/vnd.dece.hd", ["uvh", "uvvh"]),
  ("video/vnd.dece.mobile", ["uvm", "uvvm"]),
  ("video/vnd.dece.pd", ["uvp", "uvvp"]),
  ("video/vnd.dece.sd", ["uvs", "uvvs"]),
  ("video/vnd.dece.video", ["uvv", "uvvv"]),
  ("video/vnd.dlna.mpeg-tts", ["m2t", "m2ts", "mts", "ts", "tts"]),
  ("video/vnd.dvb.file", ["dvb"]),
  ("video/vnd.fvt", ["fvt"]),
  ("video/vnd.mpegurl", ["mxu", "m4u"]),
  ("video/vnd.ms-playready.media.pyv", ["pyv"]),
  ("video/vnd.uvvu.mp4", ["uvu", "uvvu"]),
  ("video/vnd.vivo", ["viv"]),
  ("video/webm", ["webm"]),
  ("video/x-dv", ["dif", "dv"]),
  ("video/x-f4v", ["f4v"]),
  ("video/x-fli", ["fli"]),
  ("video/x-flv", ["flv"]),
  ("video/x-ivf", ["ivf"]),
  ("video/x-la-asf", ["lsf", "lsx"]),
  ("video/x-m4v", ["m4v"]),
  ("video/x-matroska", ["mkv", "mk3d", "mks"]),
  ("video/x-mng", ["mng"]),
  ("video/x-ms-asf", ["asf", "asr", "asx", "nsc"]),
  ("video/x-ms-vob", ["vob"]),
  ("video/x-ms-wm", ["wm"]),
  ("video/x-ms-wmp", ["wmp"]),
  ("video/x-ms-wmv", ["wmv"]),
  ("video/x-ms-wmx", ["wmx"]),
  ("video/x-ms-wvx", ["wvx"]),
  ("video/x-msvideo", ["avi"]),
  ("video/x-sgi-movie", ["movie"]),
  ("video/x-smv", ["smv"])]

/-- types of shapes, from molecules to whole worlds -/
def modelTypes : List (String × List String) := [
  ("chemical/x-cdx", ["cdx"]),
  ("chemical/x-cif", ["cif"]),
  ("chemical/x-cmdf", ["cmdf"]),
  ("chemical/x-cml", ["cml"]),
  ("chemical/x-csml", ["csml"]),
  ("chemical/x-xyz", ["xyz"]),
  ("drawing/x-dwf", ["dwf"]),
  ("model/gltf+json", ["gltf"]),
  ("model/gltf-binary", ["glb"]),
  ("model/iges", ["igs", "iges"]),
  ("model/mesh", ["msh", "mesh", "silo"]),
  ("model/vnd.collada+xml", ["dae"]),
  ("model/vnd.gdl", ["gdl"]),
  ("model/vnd.gtw", ["gtw"]),
  ("model/vnd.vtu", ["vtu"]),
  ("model/vrml", ["vrml"]),
  ("model/x3d+binary", ["x3db", "x3dbz"]),
  ("model/x3d+vrml", ["x3dv", "x3dvz"]),
  ("model/x3d+xml", ["x3d", "x3dz"]),
  ("x-conference/x-cooltalk", ["ice"]),
  ("x-world/x-vrml", ["flr", "wrl", "wrz", "xaf", "xof"])]

end ResourceServer.Http

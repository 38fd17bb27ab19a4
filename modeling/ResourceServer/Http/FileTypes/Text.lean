/-
Media types of texts and of messages, with the extensions of their files.
-/

namespace ResourceServer.Http

/-- types of texts -/
def textTypes : List (String × List String) := [
  ("text/cache-manifest", ["appcache"]),
  ("text/calendar", ["ics", "ifb"]),
  ("text/coffeescript", ["coffee", "litcoffee"]),
  ("text/dlm", ["dlm"]),
  ("text/gemini", ["gmi", "gemini"]),
  ("text/h323", ["323"]),
  ("text/iuls", ["uls"]),
  ("text/jade", ["jade"]),
  ("text/less", ["less"]),
  ("text/mathml", ["mml"]),
  ("text/n3", ["n3"]),
  ("text/prs.lines.tag", ["dsc"]),
  ("text/richtext", ["rtx"]),
  ("text/scriptlet", ["sct", "wsc"]),
  ("text/sgml", ["sgml", "sgm"]),
  ("text/shex", ["shex"]),
  ("text/slim", ["slim", "slm"]),
  ("text/stylus", ["stylus", "styl"]),
  ("text/tab-separated-values", ["tsv"]),
  ("text/turtle", ["ttl"]),
  ("text/uri-list", ["uri", "uris", "urls"]),
  ("text/vbscript", ["vbs"]),
  ("text/vcard", ["vcard"]),
  ("text/vnd.curl", ["curl"]),
  ("text/vnd.curl.dcurl", ["dcurl"]),
  ("text/vnd.curl.mcurl", ["mcurl"]),
  ("text/vnd.curl.scurl", ["scurl"]),
  ("text/vnd.dvb.subtitle", ["sub"]),
  ("text/vnd.fly", ["fly"]),
  ("text/vnd.fmi.flexstor", ["flx"]),
  ("text/vnd.graphviz", ["gv"]),
  ("text/vnd.in3d.3dml", ["3dml"]),
  ("text/vnd.in3d.spot", ["spot"]),
  ("text/vnd.sun.j2me.app-descriptor", ["jad"]),
  ("text/vnd.wap.wml", ["wml"]),
  ("text/vnd.wap.wmlscript", ["wmls"]),
  ("text/vtt", ["vtt"]),
  ("text/webviewhtml", ["htt"]),
  ("text/x-c", ["dic"]),
  ("text/x-component", ["htc"]),
  ("text/x-fortran", ["f", "f77", "f90", "for"]),
  ("text/x-handlebars-template", ["hbs"]),
  ("text/x-hdml", ["hdml"]),
  ("text/x-html-insertion", ["qht", "qhtm"]),
  ("text/x-lua", ["lua"]),
  ("text/x-markdown", ["mkd"]),
  ("text/x-ms-contact", ["contact"]),
  ("text/x-ms-group", ["group"]),
  ("text/x-ms-iqy", ["iqy"]),
  ("text/x-ms-rqy", ["rqy"]),
  ("text/x-nfo", ["nfo"]),
  ("text/x-opml", ["opml"]),
  ("text/x-pascal", ["p", "pas"]),
  ("text/x-processing", ["pde"]),
  ("text/x-rust", ["rs"]),
  ("text/x-sass", ["sass"]),
  ("text/x-scss", ["scss"]),
  ("text/x-setext", ["etx"]),
  ("text/x-sfv", ["sfv"]),
  ("text/x-suse-ymp", ["ymp"]),
  ("text/x-toml", ["toml"]),
  ("text/x-uuencode", ["uu"]),
  ("text/x-vcard", ["vcf"]),
  ("text/x-yaml", ["yaml", "yml"])]

/-- types of messages -/
def messageTypes : List (String × List String) := [
  ("message/disposition-notification", ["disposition-notification"]),
  ("message/global", ["u8msg"]),
  ("message/global-delivery-status", ["u8dsn"]),
  ("message/global-disposition-notification", ["u8mdn"]),
  ("message/global-headers", ["u8hdr"]),
  ("message/rfc822", ["eml", "mht", "mhtml", "nws", "mime"])]

end ResourceServer.Http

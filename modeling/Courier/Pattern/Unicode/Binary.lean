import Courier.Pattern.Unicode.Script

/-!
# Binary properties

The properties of characters that hold or do not hold, after version 15 of the Unicode
standard, with the names they are called by.

Main definitions:

- `binary?` finds a property by its name.
-/

namespace Courier.Unicode

/-- The properties that are kept as tables: their names, the long one first, and the
intervals they hold on. -/
def binaryTables : List (List String × Spans) := [
  (["asciihexdigit", "ahex"], .parse
    "1c:9,8:5,r:5"),
  (["bidicontrol", "bidic"], .parse
    "17g:0,54i:1,r:4,1k:3"),
  (["caseignorable", "ci"], .parse (
    "13:0,7:0,c:0,10:0,2:0,20:0,5:0,2:0,5:0,3:1,e0:5b,5:1,5:0,a:1,2:0,70:6,5s:0,6:0,1e:18,2:0,2" ++
    ":1,2:1,2:0,19:0,c:5,b:a,2:0,10:0,b:k,h:0,2u:7,2:9,2:3,y:0,2:0,v:q,2k:a,1n:a,5:0,3:0,p:n,18" ++
    ":2,19:0,8:1,7:7,16:1l,1k:0,2:0,5:7,5:0,4:6,b:1,e:0,g:0,1n:0,5:3,9:0,l:1,r:0,3:1,1m:0,5:1,5" ++
    ":1,3:2,4:0,v:1,4:0,c:1,1m:0,5:4,2:1,5:0,l:1,n:5,2:0,1n:0,3:0,2:3,9:0,8:1,c:1,v:0,1q:0,d:0," ++
    "1f:0,4:0,1k:0,2:2,6:2,2:3,8:1,c:1,u:0,1n:0,3:0,7:0,6:1,l:1,t:1,1m:1,5:3,9:0,l:1,u:0,21:0,8" ++
    ":2,2:0,2j:0,3:6,c:8,2r:0,3:8,a:0,2:6,22:1,s:0,2:0,2:0,1k:d,2:4,2:1,6:a,2:z,a:0,2v:3,2:5,2:" ++
    "1,3:1,q:1,5:2,h:3,e:0,3:1,7:0,g:0,2n:0,gx:2,qb:2,u:1,v:1,v:1,1t:1,2:6,9:0,3:a,4:0,6:0,1a:4" ++
    ",1g:0,1u:1,z:0,3b:2,5:1,a:0,7:2,64:1,3:0,1n:0,2:6,2:0,2:0,3:7,7:9,3:0,14:0,9:u,1e:3,1d:0,2" ++
    ":4,2:0,6:0,15:8,d:1,x:3,3:1,2:2,1l:0,2:1,4:0,2:2,1n:7,3:1,1t:5,2b:2,2:c,2:6,5:0,7:0,4:1,1f" ++
    ":1q,e:0,z:2s,ce:0,2:2,c:2,e:2,e:2,e:1,d:4,9:1,b:0,3:0,3:4,1e:4,2:9,2:0,e:0,h:c,1g:w,2a4:1," ++
    "36:2,3i:0,g:0,2p:v,1c:0,d2:0,11:3,4:4,6:0,2m:5,2m:2,lxz:0,yr:5,7j:0,2r:3,2:9,2:0,t:3,29:1," ++
    "f:x,27:0,o:2,2w:2,4:1,9:0,4:0,5:0,q:1,6:0,48:1,r:h,e:0,13:7,q:a,1b:2,1d:0,3:3,3:1,i:0,m:1," ++
    "1v:5,3:1,3:1,d:0,9:0,10:0,c:0,1g:0,2:2,3:1,6:1,2:0,s:0,f:1,6:1,2:0,2t:4,a:2,3e:0,3:0,5:0,f" ++
    "n5:0,44:g,fy:f,4:0,d:f,z:0,3:0,4q:0,8:0,7:0,c:0,10:0,2:0,1c:0,1a:1,1w:0,m:2,ea:0,6b:0,46:4" ++
    ",sm:5,2:15,2:8,g7:2,2:1,6:3,15:2,5:0,4m:1,fy:3,as:1,29:2,1z:a,1e:3,3g:0,1j:e,16:0,3:1,b:2," ++
    "1e:3,3:1,3:0,5:0,b:0,1f:2,11:4,2:7,1r:0,d:1,1h:8,b:3,3:0,2o:2,3:0,2:1,7:0,3:0,4e:0,4:7,m:1" ++
    ",1m:1,4:0,12:6,4:4,5g:7,3:2,2:0,o:0,2d:5,2:0,5:1,2:1,6n:3,7:1,2:1,s:1,2e:7,3:0,2:1,2z:0,2:" ++
    "0,3:5,2:0,2u:2,3:3,2:4,78:8,2:1,75:1,2:0,5:0,41:3,3:1,5:0,x:9,15:5,3:3,9:0,a:5,3:2,1b:c,2:" ++
    "1,bb:6,2:5,2:0,2b:l,3:6,2:1,2:1,3f:5,4:0,2:1,2:6,2:0,21:1,4:0,2:0,9o:1,c:1,1h:4,6:0,2:0,44" ++
    "u:g,7:e,asb:4,1o:6,a:3,ss:0,1s:g,1t:1,2:1,cng:3,2:6,2:1,2hr:1,2:3,3ml:19,3:m,f5:2,a:f,3:6," ++
    "v:3,45:2,1j0:1i,5:1d,9:0,f:0,n:4,2:e,11t:6,2:g,3:6,2:1,2:4,6:1p,y:0,4h:d,a9:0,1q:3,e4:4,rl" ++
    ":6,32:7,240:4,gx6q:0,v:2n,3l:6n")),
  (["cased"], .parse (
    "1t:p,7:p,1c:0,b:0,5:0,6:m,2:u,2:5e,2:3,5:5r,2:z,8:1,v:4,2p:0,17:3,3:1,3:3,2:0,7:0,2:2,2:0," ++
    "2:j,2:2a,2:3u,9:4l,2:11,a:14,26w:11,2:0,6:0,3:16,2:3,ip:2d,3:5,1oj:8,8:16,3:2,1t:5b,1t:7p," ++
    "3:5,3:11,3:5,3:7,2:0,2:0,2:0,2:u,3:1g,2:6,2:0,4:2,2:6,4:3,3:5,5:c,6:2,2:6,39:0,e:0,h:c,2u:" ++
    "0,5:0,3:9,2:0,4:4,7:0,2:0,2:0,2:3,2:5,5:0,3:3,6:4,5:0,i:v,4:1,mq:1f,1ef:6c,7:3,4:1,d:11,2:" ++
    "0,6:0,nwz:19,j:t,3p:2t,4:3,2:1m,6:1,2:0,2:4,p:4,2:2,mu:16,2:d,7:27,fnl:6,d:4,sq:p,7:p,x2:2" ++
    "7,2p:z,5:z,39:a,2:e,2:6,2:1,2:a,2:e,2:6,2:1,ck:0,3:2,2:15,2:8,xy:1e,e:1e,2b2:1r,gv5:1r,k1t" ++
    ":2c,2:1y,2:1,3:0,3:1,3:3,2:b,2:0,2:6,2:1s,2:3,3:7,2:6,2:r,2:3,2:4,2:0,4:6,2:9f,3:o,2:o,2:u" ++
    ",2:o,2:u,2:o,2:u,2:o,2:u,2:o,2:7,1f9:9,2:j,7:5,7a:1p,1oz:1v,1kd:p,7:p,7:p")),
  (["dash"], .parse (
    "19:0,125:0,1g:0,2te:0,sm:0,1l6:5,1q:0,14:0,g:0,av:0,2dh:0,3:0,w:1,5:0,t:0,cf:0,k:0,34:0,14" ++
    "lt:1,12:0,b:0,4q:0,334:0")),
  (["defaultignorablecodepoint", "di"], .parse (
    "4t:0,iq:0,jx:0,283:1,190:1,2e:4,1ks:4,r:4,1e:f,3cl:0,14f0:f,6o:0,4h:0,28:8,119k:3,440:7,h4" ++
    "06:35r")),
  (["deprecated", "dep"], .parse
    "95:0,10q:0,1s4:0,2:0,1m2:1,1qe:5,je:1,jh07:0"),
  (["diacritic", "dia"], .parse (
    "2m:0,2:0,20:0,7:0,5:0,3:1,e0:4e,2:7,6:5,i:1,5:0,a:1,72:4,5u:0,1k:g,2:q,2:0,2:1,2:0,3r:7,5:" ++
    "1,3r:1,5:1,4:2,1w:q,2k:a,1n:a,z:1,3j:7,16:9,h:r,1q:0,h:0,4:3,t:0,23:0,h:0,33:0,h:0,33:0,h:" ++
    "0,1c:2,1p:0,h:0,8:0,3c:0,33:0,h:0,33:0,h:0,32:1,h:0,3h:0,3h:5,2:0,30:0,e:4,24:1,s:0,2:0,2:" ++
    "0,5:1,1v:2,2:1,1r:0,35:0,2:1,15:1,5:4,q:6,2:0,b:1,jm:2,qd:1,50:a,a:0,9o:2,8q:7,3:0,1d:e,3:" ++
    "a,2x:0,g:0,13:8,1j:1,3v:1,1t:5,2b:o,5:0,7:0,3:2,1f:1q,2i:b,12:a,ce:0,2:2,c:2,e:2,e:2,e:1,2" ++
    "k1:2,8u:0,e3:5,2y:3,2o:0,n77:0,d:1,2:0,t:1,2b:1,f:x,2v:2,32:1,5n:0,s:h,1m:3,11:0,2o:0,d:0," ++
    "11:0,46:2,1u:3,1g:0,2t:4,a:2,3l:1,fn5:0,le:f,7j:0,2:0,1c:0,1a:1,1w:0,l9:0,ww:5,2:15,2:8,mj" ++
    ":1,fw:5,d2:2,1z:a,1e:3,5d:0,16:0,21:1,3d:1,1r:0,25:0,a:2,2x:1,4z:1,2a:0,h:0,p:6,4:4,5q:0,4" ++
    ":0,3g:1,70:1,3j:0,3b:1,38:0,7i:1,77:1,5:0,4d:0,2c:0,j:0,2a:0,bq:0,77:0,2:1,2a:0,4hc:e,asb:" ++
    "4,1o:6,ux:g,29:1,cn3:3,2:6,2:1,64i:19,3:m,f5:2,4:5,9:7,3:6,v:3,2v7:1p,5f:6,ag:0,1q:3,15t:6" ++
    ",32:2,2:2")),
  (["emoji"], .parse (
    "z:0,7:0,6:9,34:0,5:0,68e:0,d:0,61:0,n:0,2j:5,g:1,a8:1,d:0,4n:0,q:a,5:2,5k:0,6g:1,b:0,a:0,1" ++
    "n:3,2:4,a:0,3:0,3:1,3:0,5:0,3:0,2:1,3:0,4:0,4:1,9:2,6:0,2:0,6:b,c:1,3:0,2:1,2:0,j:0,3:1,j:" ++
    "5,2:0,2:1,4:1,6:0,3:1,5:1,c:1,6:1,3:0,6:1,2:0,2:1,l:1,6:5,2:3,3:0,5:0,3:0,3:5,2:0,3:0,2:0," ++
    "2:0,7:0,4:0,7:0,b:1,g:0,3:0,5:0,2:0,5:2,2:0,c:1,1d:2,a:0,f:0,f:0,ad:1,cw:2,k:1,1g:0,5:0,yj" ++
    ":0,d:0,gq:0,2:0,2fzf:0,5n:0,4h:1,d:1,f:0,3:9,24:p,2:1,o:0,l:0,3:8,m:1,4v:x,3:33,3:1,2:2,3:" ++
    "2a,3:2,2:7a,2:1q,c:5,2:n,8:1,3:7,d:0,3:3,3:0,5:1,e:1,3:0,9:1,a:0,6:2,d:2,9:2,3:0,2:0,5:0,7" ++
    ":0,4:0,7:2d,1d:1x,6:7,3:2,5:9,4:0,2:1,4:0,3:9,6c:b,5:0,7w:1a,2:9,2:54,35:c,4:8,8:19,2:6,9:" ++
    "d,5:8,8:8")),
  (["emojicomponent", "ecomp"], .parse
    "z:0,7:0,6:9,6ac:0,5y:0,17os:0,1c5z:p,e4:4,14h:3,gw31:2n"),
  (["emojimodifier", "emod"], .parse
    "2qrf:4"),
  (["emojimodifierbase", "ebase"], .parse (
    "7j1:0,64:0,h:3,2iyg:0,1p:2,3:0,3:2,3a:1,3:a,m:i,4:0,5:2,2:2,8:0,2:0,p:0,5m:1,5:0,m:0,5:1,4" ++
    "v:2,4:4,2c:0,h:2,a:0,c:0,g0:0,3:0,9:7,7:0,a:9,3:2,1l:0,1q:1,2:1,2:0,i:2,2:c,6e:2,17:8")),
  (["emojipresentation", "epres"], .parse (
    "6xm:1,5q:3,4:0,3:0,ei:1,m:1,1f:b,18:0,k:0,e:0,9:1,i:1,6:1,9:0,6:0,m:0,8:1,2:0,5:0,3:0,8:0," ++
    "5:1,t:0,10:0,2:0,5:2,2:0,1q:2,p:0,f:0,nw:1,1g:0,5:0,2hf3:0,5n:0,5b:0,3:9,24:p,2:0,p:0,l:0," ++
    "3:4,2:2,m:1,4v:w,d:8,2:1x,2:l,d:16,5:4,d:g,4:0,4:1y,2:0,2:56,3:1q,e:3,2:n,j:0,r:1,e:0,2f:2" ++
    "c,1d:1x,7:0,4:2,3:2,5:3,c:1,8:8,6c:b,5:0,7w:1a,2:9,2:54,35:c,4:8,8:19,2:6,9:d,5:8,8:8")),
  (["extendedpictographic", "extpict"], .parse (
    "4p:0,5:0,68e:0,d:0,61:0,n:0,2j:5,g:1,a8:1,d:0,2o:0,1z:0,q:a,5:2,5k:0,6g:1,b:0,a:0,1n:3,2:5" ++
    ",2:b,2:35,b:39,3:a,2:0,2:0,7:0,4:0,7:0,b:1,g:0,3:0,5:0,2:0,5:2,2:0,c:4,1a:2,a:0,f:0,f:0,ad" ++
    ":1,cw:2,k:1,1g:0,5:0,yj:0,d:0,gq:0,2:0,2fzb:73,e:2,w:0,1p:5,d:1,f:0,3:9,j:1k,s:e,b:0,l:0,3" ++
    ":8,2:3,a:c1,6:8t,9:7d,1d:3j,39:b,2e:16,d:3,1l:7,b:5,15:7,v:29,d:1a,2:9,2:c8,75:sd")),
  (["extender", "ext"], .parse (
    "53:0,ex:1,of:0,ca:0,nv:0,kx:0,3k:0,1tw:0,1l:0,h0:0,b3:0,1x:0,3uy:0,18:4,2w:1,2m:2,lxz:0,16" ++
    "f:0,qr:0,n:0,3u:0,31:0,m:1,gos:0,1ld:1,2cb:0,h5:2,y8:0,fxm:1,wt:1,2:0,me1:1,1l3:2")),
  (["graphemeextend", "grext"], .parse (
    "lc:33,7o:6,7c:18,2:0,2:1,2:1,2:0,21:a,1d:k,h:0,2u:6,3:5,3:1,2:3,10:0,v:q,2k:a,1n:8,a:0,p:3" ++
    ",2:8,2:2,2:4,18:2,1p:7,17:n,2:v,1k:0,2:0,5:7,5:0,4:6,b:1,u:0,1n:0,2:0,3:3,9:0,a:0,b:1,r:0," ++
    "3:1,1m:0,5:1,5:1,3:2,4:0,v:1,4:0,c:1,1m:0,5:4,2:1,5:0,l:1,n:5,2:0,1n:0,2:1,2:3,9:0,8:2,b:1" ++
    ",v:0,1o:0,2:0,d:0,a:0,15:0,4:0,1k:0,2:2,6:2,2:3,8:1,c:1,u:0,1n:0,3:0,3:0,4:0,6:1,8:1,c:1,t" ++
    ":1,1m:1,2:0,3:3,9:0,a:0,b:1,u:0,21:0,5:0,3:2,2:0,9:0,2a:0,3:6,d:7,2r:0,3:8,c:6,22:1,s:0,2:" ++
    "0,2:0,1k:d,2:4,2:1,6:a,2:z,a:0,2v:3,2:5,2:1,3:1,q:1,5:2,h:3,e:0,3:1,7:0,g:0,jk:2,qb:2,u:1," ++
    "v:1,v:1,1t:1,2:6,9:0,3:a,a:0,1a:2,2:0,3a:1,z:0,3b:2,5:1,a:0,7:2,64:1,3:0,1n:0,2:6,2:0,2:0," ++
    "3:7,7:9,3:0,1d:u,1e:3,1d:6,2:0,6:0,15:8,d:1,x:3,3:1,2:2,1l:0,2:1,4:0,2:2,1n:7,3:1,49:2,2:c" ++
    ",2:6,5:0,7:0,4:1,5j:1r,el:0,5g:w,2db:2,3y:0,2p:v,ff:5,2y:1,n9x:3,2:9,x:1,29:1,7l:0,4:0,5:0" ++
    ",q:1,6:0,48:1,r:h,e:0,13:7,q:a,1b:2,1d:0,3:3,3:1,14:0,1w:5,3:1,3:1,d:0,9:0,1c:0,1g:0,2:2,3" ++
    ":1,6:1,2:0,17:1,9:0,6n:0,3:0,5:0,fn5:0,ki:f,h:f,a7:1,gu:0,6b:0,46:4,1af:2,2:1,6:3,15:2,5:0" ++
    ",4m:1,fy:3,as:1,29:2,1z:a,1e:3,3g:0,1j:e,16:0,3:1,b:2,1e:3,3:1,8:0,1q:2,11:4,2:7,1r:0,d:1," ++
    "1h:8,b:3,3:0,2o:2,3:0,2:1,7:0,3:0,4e:0,4:7,m:1,1m:1,2:0,2:0,n:0,f:6,4:4,5g:7,3:2,2:0,o:0,2" ++
    "a:0,3:5,2:0,3:0,2:1,2:1,6k:0,3:3,7:1,2:1,s:1,2e:7,3:0,2:1,2z:0,2:0,3:5,2:0,2u:2,3:3,2:4,78" ++
    ":8,2:1,6u:0,b:1,2:0,5:0,41:3,3:1,5:0,x:9,15:5,3:3,9:0,a:5,3:2,1b:c,2:1,bb:6,2:5,2:0,2b:l,3" ++
    ":6,2:1,2:1,3f:5,4:0,2:1,2:6,2:0,21:1,4:0,2:0,9o:1,c:1,1h:4,6:0,2:0,45a:0,7:e,asb:4,1o:6,t5" ++
    ":0,1s:3,2a:0,f5l:1,3mq:19,3:m,f3:0,2:2,5:4,9:7,3:6,v:3,45:2,1j0:1i,5:1d,9:0,f:0,n:4,2:e,11" ++
    "t:6,2:g,3:6,2:1,2:4,2t:0,4h:6,ag:0,1q:3,e5:3,rl:6,32:6,gzbq:2n,3l:6n")),
  (["hexdigit", "hex"], .parse
    "1c:9,8:5,r:5,1eay:9,8:5,r:5"),
  (["idsbinaryoperator", "idsb"], .parse
    "9gw:1,3:7"),
  (["idstrinaryoperator", "idst"], .parse
    "9gy:1"),
  (["ideographic", "ideo"], .parse (
    "9hi:1,q:8,f:2,qu:533,1t:g73,hkx:a5,3:2x,n4b:0,s:4qf,9:yd,17:8,76w:az,f7p:wyn,x:37d,7:65,3:" ++
    "4g1,f:5rk,2e8:f1,15v:3t6,6:38f")),
  (["joincontrol", "joinc"], .parse
    "6bw:1"),
  (["logicalorderexception", "loe"], .parse
    "2tc:4,3g:4,25t:2,3:0,smz:1,3:0,2:1"),
  (["math"], .parse (
    "17:0,h:2,w:0,u:0,2:0,1a:0,5:0,12:0,w:0,k9:2,3:0,r:1,3:2,eo:2,55a:0,s:2,c:0,4:0,e:0,f:3,m:4" ++
    ",c:4,1u:c,5:0,4:1,5:4,j:0,5:0,3:9,2:0,3:5,7:0,4:1,3:1,2:2,2:5,4:d,2:0,1x:n,2:5,2:1,5:1,5:v" ++
    ",2:0,7:1,f:7f,9:3,l:1,2j:0,v:q,2:0,p:0,c:6,ce:1,d:9,5:5,5:1,3:1,4:4,f:0,2:0,3:5,c:7,6:1,1m" ++
    ":0,2:0,u:3,a:2,9d:1r,75:e7,1d:k,3:5,1525:0,mw:5,2:0,4j:0,h:2,u:0,2:0,u:0,2:0,3o:0,7:3,15w4" ++
    ":2c,2:1y,2:1,3:0,3:1,3:3,2:b,2:0,2:6,2:1s,2:3,3:7,2:6,2:r,2:3,2:4,2:0,4:6,2:9f,3:83,3:1d,4" ++
    "ch:3,2:q,2:1,2:0,3:0,2:9,2:3,2:0,2:0,7:0,5:0,2:0,2:0,2:2,2:1,2:0,3:0,2:0,2:0,2:0,2:0,2:1,2" ++
    ":0,3:3,2:6,2:3,2:3,2:0,2:9,2:g,6:2,2:4,2:g,1h:1")),
  (["noncharactercodepoint", "nchar"], .parse (
    "1e4w:v,en:1,1ekf:1,1ekf:1,1ekf:1,1ekf:1,1ekf:1,1ekf:1,1ekf:1,1ekf:1,1ekf:1,1ekf:1,1ekf:1,1" ++
    "ekf:1,1ekf:1,1ekf:1,1ekf:1,1ekf:1")),
  (["patternsyntax", "patsyn"], .parse (
    "x:e,b:6,r:3,2:0,r:3,z:6,2:0,2:1,2:0,2:1,5:0,5:0,4:0,o:0,w:0,655:n,9:e,3:i,2:9,8i:jz,4h:hh," ++
    "v:vf,e9:3j,aq:2,5:o,g:0,14i6:1,7a:1")),
  (["patternwhitespace", "patws"], .parse
    "9:4,j:0,2t:0,689:1,p:1"),
  (["prependedconcatenationmark", "pcm"], .parse
    "16o:5,60:0,1e:0,ap:1,29:0,1g4b:0,g:0"),
  (["quotationmark", "qmark"], .parse
    "y:0,5:0,3o:0,g:0,671:7,q:1,2rs:0,cq:3,e:2,14pu:3,5a:0,5:0,2j:1"),
  (["radical"], .parse
    "96o:p,2:2g,d:5x"),
  (["regionalindicator", "ri"], .parse
    "2qcm:p"),
  (["sentenceterminal", "sterm"], .parse (
    "x:0,d:0,h:0,11m:0,44:2,51:0,18:2,6v:0,1q:0,2:0,4:1,86:1,1d1:1,lz:0,5:1,li:0,5j:1,5p:0,6:0," ++
    "8r:1,9v:3,4v:1,3:1,u:1,59:1,1u:1,ql:1,a:2,2qt:0,e:0,n:1,by:0,n3x:0,7j:1,6c:0,4:0,an:1,2f:1" ++
    ",2o:0,49:1,44:2,41:1,6y:0,g9z:0,4:1,4q:0,d:0,h:0,1u:0,25x:1,zi:4,19:3,5a:1,3a:3,3k:2,3m:1," ++
    "7:0,h:1,2h:1,2:1,31:0,bm:1,ae:1,6:e,2y:1,6y:2,ee:0,2:0,70:1,2g:1,bp:1,j9:1,23:1,eui:1,3q:0" ++
    ",1u:1,c:0,no:0,fev:0,5wp:0")),
  (["softdotted", "sd"], .parse (
    "2x:1,5h:0,7u:0,v:0,1h:0,l:0,8x:0,2r:0,2:0,4y2:0,1g:0,e:0,4:0,3p:0,4e:0,bq:0,5z:1,27n:0,2bo" ++
    "m:1,1f:1,1f:1,1f:1,1f:1,1f:1,1f:1,1f:1,1f:1,1f:1,1f:1,1f:1,1f:1,1on:0,8i:1,r:0")),
  (["terminalpunctuation", "term"], .parse (
    "x:0,b:0,2:0,c:1,4:0,n3:0,9:0,ea:0,1m:0,21:0,f:0,2:2,51:0,18:a,2:0,6k:1,1j:e,w:0,7a:1,z9:1," ++
    "4t:0,5:5,8o:1,ly:7,li:0,3h:2,20:1,4e:2,4:0,14:3,3:1,8r:1,9v:3,4v:1,2:2,u:1,59:4,1r:1,ql:1," ++
    "a:2,2qt:0,e:0,5:0,b:0,2:1,4:1,bx:1,n3w:1,7i:2,6c:4,an:1,2f:1,2o:0,48:2,44:2,3k:0,h:1,6y:0," ++
    "g9x:2,2:3,4q:0,b:0,2:0,c:1,4:0,1u:0,3:0,u3:0,1d:0,w7:0,5k:0,8n:1,49:5,1x:5,2i:3,qh:4,19:3," ++
    "5a:6,35:3,3k:2,3m:1,7:0,h:1,2h:4,31:0,bm:2,d:1,9z:3,4:e,2y:1,6y:2,ee:0,2:0,70:1,2g:1,5:1,b" ++
    "j:2,1a:0,hy:1,23:1,10s:4,dtm:1,3q:0,1u:2,b:0,nn:1,fev:0,5wo:3")),
  (["unifiedideograph", "uideo"], .parse
    "a9s:533,1t:g73,hsf:1,2:0,2:1,b:0,2:0,2:1,3:2,1fpz:wyn,x:37d,7:65,3:4g1,f:5rk,3z4:3t6,6:38f"),
  (["variationselector", "vs"], .parse
    "4qz:2,2:0,19f5:f,i9yp:6n"),
  (["whitespace", "wspace", "space"], .parse
    "9:4,j:0,2t:0,r:0,4bk:0,1vk:a,u:1,6:0,1c:0,335:0")]

/-- The characters that begin names although their category is none of letters. -/
def otherNameStart : Spans :=
  [(0x1885, 0x1886), (0x2118, 0x2118), (0x212E, 0x212E), (0x309B, 0x309C)]

/-- The characters that go on in names although their category does not say so. -/
def otherNameContinue : Spans :=
  [(0xB7, 0xB7), (0x387, 0x387), (0x1369, 0x1371), (0x19DA, 0x19DA)]

/-- The characters that begin names but whose compatible forms do not. -/
def unstableNameStart : Spans :=
  [(0x37A, 0x37A), (0xE33, 0xE33), (0xEB3, 0xEB3), (0x309B, 0x309C), (0xFC5E, 0xFC63),
    (0xFDFA, 0xFDFB), (0xFE70, 0xFE70), (0xFE72, 0xFE72), (0xFE74, 0xFE74), (0xFE76, 0xFE76),
    (0xFE78, 0xFE78), (0xFE7A, 0xFE7A), (0xFE7C, 0xFE7C), (0xFE7E, 0xFE7E), (0xFF9E, 0xFF9F)]

/-- The characters that go on in names but whose compatible forms do not. -/
def unstableNameContinue : Spans :=
  unstableNameStart.filter fun s => s.1 != 0xE33 && s.1 != 0xEB3 && s.1 != 0xFF9E

/-- Whether a character has a property that is kept as a table. -/
def hasTable (name : String) (c : Char) : Bool :=
  match binaryTables.find? fun t => t.1.contains name with
  | some (_, spans) => spans.contains c.toNat
  | none => false

/-- Whether a character is set aside for the notation of patterns. -/
def isPatternCharacter (c : Char) : Bool :=
  hasTable "patternsyntax" c || hasTable "patternwhitespace" c

/-- Whether a character can begin a name. -/
def isNameStart (c : Char) : Bool :=
  (letterCategories.contains (category c) || otherNameStart.contains c.toNat) &&
    !isPatternCharacter c

/-- Whether a character can go on in a name. -/
def isNameContinue (c : Char) : Bool :=
  (isNameStart c || ["Mn", "Mc", "Nd", "Pc"].contains (category c) ||
    otherNameContinue.contains c.toNat) && !isPatternCharacter c

/-- Whether a character can stand as a grapheme of its own. -/
def isGraphemeBase (c : Char) : Bool :=
  !(["Cc", "Cf", "Cs", "Co", "Cn", "Zl", "Zp"].contains (category c)) &&
    !hasTable "graphemeextend" c

/-- The properties that follow from others. -/
def derivedProperties : List (List String × (Char → Bool)) := [
  (["alphabetic", "alpha"], isAlphabetic),
  (["lowercase", "lower"], isLowercase),
  (["uppercase", "upper"], isUppercase),
  (["graphemebase", "grbase"], isGraphemeBase),
  (["idstart", "ids"], isNameStart),
  (["idcontinue", "idc"], isNameContinue),
  (["xidstart", "xids"], fun c => isNameStart c && !unstableNameStart.contains c.toNat),
  (["xidcontinue", "xidc"], fun c => isNameContinue c && !unstableNameContinue.contains c.toNat)]

/-- The property that a name stands for; the name is in lower case and without
separators. -/
def binary? (name : String) : Option (Char → Bool) :=
  match derivedProperties.find? fun p => p.1.contains name with
  | some (_, holds) => some holds
  | none =>
      (binaryTables.find? fun t => t.1.contains name).map fun t c => t.2.contains c.toNat

end Courier.Unicode

import Depot.Text.Span
/-!
# Decomposition

Many characters are another way to write one or more others: `é` is `e` with an
acute accent, `½` the fraction 1⁄2, and a syllable of Hangul its two or three
letters. A canonical decomposition is the same text; any other loses the form that
the character has.
-/
namespace Depot.Text

/-- The form of a character that stands for others. -/
inductive Form where
  | canonical
  | compatible
  | noBreak
  | circle
  | final
  | font
  | initial
  | isolated
  | medial
  | narrow
  | square
  | fraction
  | super
  | small
  | sub
  | vertical
  | wide
deriving DecidableEq, Repr

/-- The form that a letter of the table stands for. -/
def Form.ofLetter? (c : Char) : Option Form :=
  match c with
  | 'b' => some .noBreak
  | 'c' => some .circle
  | 'e' => some .final
  | 'f' => some .font
  | 'i' => some .initial
  | 'l' => some .isolated
  | 'm' => some .medial
  | 'n' => some .narrow
  | 'o' => some .compatible
  | 'q' => some .square
  | 'r' => some .fraction
  | 's' => some .super
  | 't' => some .small
  | 'u' => some .sub
  | 'v' => some .vertical
  | 'w' => some .wide
  | _ => none

/-- What a character stands for, and the form that it has. -/
structure Decomposition where
  form : Form
  parts : List Char

namespace Decomposition

/-- Reads a word of the table: the letter of the form, none for a canonical one, and the parts. -/
def ofText (s : String) : Decomposition :=
  match s.toList with
  | [] => ⟨.canonical, []⟩
  | c :: rest =>
    match Form.ofLetter? c with
    | none => ⟨.canonical, charsOfCodes s⟩
    | some form => ⟨form, charsOfCodes (String.ofList rest)⟩

/-- The characters that stand for others, without the syllables of Hangul. Along a span the last
part moves. -/
def table : String := "
A0=b20 A8=o20.308 AA=s61 AF=o20.304 B2-B3=s32 B4=o20.301 B5=o3BC B8=o20.327 B9=s31 BA=s6F
BC=r31.2044.34 BD=r31.2044.32 BE=r33.2044.34 C0-C3=41.300 C4=41.308 C5=41.30A C7=43.327
C8-CA=45.300 CB=45.308 CC-CE=49.300 CF=49.308 D1=4E.303 D2-D5=4F.300 D6=4F.308 D9-DB=55.300
DC=55.308 DD=59.301 E0-E3=61.300 E4=61.308 E5=61.30A E7=63.327 E8-EA=65.300 EB=65.308 EC-EE=69.300
EF=69.308 F1=6E.303 F2-F5=6F.300 F6=6F.308 F9-FB=75.300 FC=75.308 FD=79.301 FF=79.308 100=41.304
101=61.304 102=41.306 103=61.306 104=41.328 105=61.328 106=43.301 107=63.301 108=43.302 109=63.302
10A=43.307 10B=63.307 10C=43.30C 10D=63.30C 10E=44.30C 10F=64.30C 112=45.304 113=65.304 114=45.306
115=65.306 116=45.307 117=65.307 118=45.328 119=65.328 11A=45.30C 11B=65.30C 11C=47.302 11D=67.302
11E=47.306 11F=67.306 120=47.307 121=67.307 122=47.327 123=67.327 124=48.302 125=68.302 128=49.303
129=69.303 12A=49.304 12B=69.304 12C=49.306 12D=69.306 12E=49.328 12F=69.328 130=49.307 132=o49.4A
133=o69.6A 134=4A.302 135=6A.302 136=4B.327 137=6B.327 139=4C.301 13A=6C.301 13B=4C.327 13C=6C.327
13D=4C.30C 13E=6C.30C 13F=o4C.B7 140=o6C.B7 143=4E.301 144=6E.301 145=4E.327 146=6E.327 147=4E.30C
148=6E.30C 149=o2BC.6E 14C=4F.304 14D=6F.304 14E=4F.306 14F=6F.306 150=4F.30B 151=6F.30B
154=52.301 155=72.301 156=52.327 157=72.327 158=52.30C 159=72.30C 15A=53.301 15B=73.301 15C=53.302
15D=73.302 15E=53.327 15F=73.327 160=53.30C 161=73.30C 162=54.327 163=74.327 164=54.30C 165=74.30C
168=55.303 169=75.303 16A=55.304 16B=75.304 16C=55.306 16D=75.306 16E=55.30A 16F=75.30A 170=55.30B
171=75.30B 172=55.328 173=75.328 174=57.302 175=77.302 176=59.302 177=79.302 178=59.308 179=5A.301
17A=7A.301 17B=5A.307 17C=7A.307 17D=5A.30C 17E=7A.30C 17F=o73 1A0=4F.31B 1A1=6F.31B 1AF=55.31B
1B0=75.31B 1C4-1C5=o44.17D 1C6=o64.17E 1C7=o4C.4A 1C8=o4C.6A 1C9=o6C.6A 1CA=o4E.4A 1CB=o4E.6A
1CC=o6E.6A 1CD=41.30C 1CE=61.30C 1CF=49.30C 1D0=69.30C 1D1=4F.30C 1D2=6F.30C 1D3=55.30C 1D4=75.30C
1D5=DC.304 1D6=FC.304 1D7=DC.301 1D8=FC.301 1D9=DC.30C 1DA=FC.30C 1DB=DC.300 1DC=FC.300 1DE=C4.304
1DF=E4.304 1E0=226.304 1E1=227.304 1E2=C6.304 1E3=E6.304 1E6=47.30C 1E7=67.30C 1E8=4B.30C
1E9=6B.30C 1EA=4F.328 1EB=6F.328 1EC=1EA.304 1ED=1EB.304 1EE=1B7.30C 1EF=292.30C 1F0=6A.30C
1F1=o44.5A 1F2=o44.7A 1F3=o64.7A 1F4=47.301 1F5=67.301 1F8=4E.300 1F9=6E.300 1FA=C5.301 1FB=E5.301
1FC=C6.301 1FD=E6.301 1FE=D8.301 1FF=F8.301 200=41.30F 201=61.30F 202=41.311 203=61.311 204=45.30F
205=65.30F 206=45.311 207=65.311 208=49.30F 209=69.30F 20A=49.311 20B=69.311 20C=4F.30F 20D=6F.30F
20E=4F.311 20F=6F.311 210=52.30F 211=72.30F 212=52.311 213=72.311 214=55.30F 215=75.30F 216=55.311
217=75.311 218=53.326 219=73.326 21A=54.326 21B=74.326 21E=48.30C 21F=68.30C 226=41.307 227=61.307
228=45.327 229=65.327 22A=D6.304 22B=F6.304 22C=D5.304 22D=F5.304 22E=4F.307 22F=6F.307
230=22E.304 231=22F.304 232=59.304 233=79.304 2B0=s68 2B1=s266 2B2=s6A 2B3=s72 2B4=s279 2B5=s27B
2B6=s281 2B7=s77 2B8=s79 2D8-2D9=o20.306 2DA=o20.30A 2DB=o20.328 2DC=o20.303 2DD=o20.30B 2E0=s263
2E1=s6C 2E2=s73 2E3=s78 2E4=s295 340-341=300 343=313 344=308.301 374=2B9 37A=o20.345 37E=3B
384=o20.301 385=A8.301 386=391.301 387=B7 388=395.301 389=397.301 38A=399.301 38C=39F.301
38E=3A5.301 38F=3A9.301 390=3CA.301 3AA=399.308 3AB=3A5.308 3AC=3B1.301 3AD=3B5.301 3AE=3B7.301
3AF=3B9.301 3B0=3CB.301 3CA=3B9.308 3CB=3C5.308 3CC=3BF.301 3CD=3C5.301 3CE=3C9.301 3D0=o3B2
3D1=o3B8 3D2=o3A5 3D3=3D2.301 3D4=3D2.308 3D5=o3C6 3D6=o3C0 3F0=o3BA 3F1-3F2=o3C1 3F4=o398
3F5=o3B5 3F9=o3A3 400=415.300 401=415.308 403=413.301 407=406.308 40C=41A.301 40D=418.300
40E=423.306 419=418.306 439=438.306 450=435.300 451=435.308 453=433.301 457=456.308 45C=43A.301
45D=438.300 45E=443.306 476=474.30F 477=475.30F 4C1=416.306 4C2=436.306 4D0=410.306 4D1=430.306
4D2=410.308 4D3=430.308 4D6=415.306 4D7=435.306 4DA=4D8.308 4DB=4D9.308 4DC=416.308 4DD=436.308
4DE=417.308 4DF=437.308 4E2=418.304 4E3=438.304 4E4=418.308 4E5=438.308 4E6=41E.308 4E7=43E.308
4EA=4E8.308 4EB=4E9.308 4EC=42D.308 4ED=44D.308 4EE=423.304 4EF=443.304 4F0=423.308 4F1=443.308
4F2=423.30B 4F3=443.30B 4F4=427.308 4F5=447.308 4F8=42B.308 4F9=44B.308 587=o565.582
622-623=627.653 624=648.654 625=627.655 626=64A.654 675=o627.674 676=o648.674 677=o6C7.674
678=o64A.674 6C0=6D5.654 6C2=6C1.654 6D3=6D2.654 929=928.93C 931=930.93C 934=933.93C 958=915.93C
959=916.93C 95A=917.93C 95B=91C.93C 95C=921.93C 95D=922.93C 95E=92B.93C 95F=92F.93C 9CB=9C7.9BE
9CC=9C7.9D7 9DC=9A1.9BC 9DD=9A2.9BC 9DF=9AF.9BC A33=A32.A3C A36=A38.A3C A59=A16.A3C A5A=A17.A3C
A5B=A1C.A3C A5E=A2B.A3C B48=B47.B56 B4B=B47.B3E B4C=B47.B57 B5C=B21.B3C B5D=B22.B3C B94=B92.BD7
BCA=BC6.BBE BCB=BC7.BBE BCC=BC6.BD7 C48=C46.C56 CC0=CBF.CD5 CC7-CC8=CC6.CD5 CCA=CC6.CC2
CCB=CCA.CD5 D4A=D46.D3E D4B=D47.D3E D4C=D46.D57 DDA=DD9.DCA DDC=DD9.DCF DDD=DDC.DCA DDE=DD9.DDF
E33=oE4D.E32 EB3=oECD.EB2 EDC=oEAB.E99 EDD=oEAB.EA1 F0C=bF0B F43=F42.FB7 F4D=F4C.FB7 F52=F51.FB7
F57=F56.FB7 F5C=F5B.FB7 F69=F40.FB5 F73=F71.F72 F75=F71.F74 F76=FB2.F80 F77=oFB2.F81 F78=FB3.F80
F79=oFB3.F81 F81=F71.F80 F93=F92.FB7 F9D=F9C.FB7 FA2=FA1.FB7 FA7=FA6.FB7 FAC=FAB.FB7 FB9=F90.FB5
1026=1025.102E 10FC=s10DC 1B06=1B05.1B35 1B08=1B07.1B35 1B0A=1B09.1B35 1B0C=1B0B.1B35
1B0E=1B0D.1B35 1B12=1B11.1B35 1B3B=1B3A.1B35 1B3D=1B3C.1B35 1B40=1B3E.1B35 1B41=1B3F.1B35
1B43=1B42.1B35 1D2C=s41 1D2D=sC6 1D2E=s42 1D30-1D31=s44 1D32=s18E 1D33-1D3A=s47 1D3C=s4F 1D3D=s222
1D3E=s50 1D3F=s52 1D40-1D41=s54 1D42=s57 1D43=s61 1D44-1D45=s250 1D46=s1D02 1D47=s62 1D48-1D49=s64
1D4A=s259 1D4B-1D4C=s25B 1D4D=s67 1D4F=s6B 1D50=s6D 1D51=s14B 1D52=s6F 1D53=s254 1D54-1D55=s1D16
1D56=s70 1D57-1D58=s74 1D59=s1D1D 1D5A=s26F 1D5B=s76 1D5C=s1D25 1D5D-1D5F=s3B2 1D60-1D61=s3C6
1D62=u69 1D63=u72 1D64-1D65=u75 1D66-1D67=u3B2 1D68=u3C1 1D69-1D6A=u3C6 1D78=s43D 1D9B=s252
1D9C=s63 1D9D=s255 1D9E=sF0 1D9F=s25C 1DA0=s66 1DA1=s25F 1DA2=s261 1DA3=s265 1DA4-1DA6=s268
1DA7=s1D7B 1DA8=s29D 1DA9=s26D 1DAA=s1D85 1DAB=s29F 1DAC=s271 1DAD=s270 1DAE-1DB1=s272 1DB2=s278
1DB3-1DB4=s282 1DB5=s1AB 1DB6-1DB7=s289 1DB8=s1D1C 1DB9-1DBA=s28B 1DBB=s7A 1DBC-1DBE=s290
1DBF=s3B8 1E00=41.325 1E01=61.325 1E02=42.307 1E03=62.307 1E04=42.323 1E05=62.323 1E06=42.331
1E07=62.331 1E08=C7.301 1E09=E7.301 1E0A=44.307 1E0B=64.307 1E0C=44.323 1E0D=64.323 1E0E=44.331
1E0F=64.331 1E10=44.327 1E11=64.327 1E12=44.32D 1E13=64.32D 1E14=112.300 1E15=113.300 1E16=112.301
1E17=113.301 1E18=45.32D 1E19=65.32D 1E1A=45.330 1E1B=65.330 1E1C=228.306 1E1D=229.306 1E1E=46.307
1E1F=66.307 1E20=47.304 1E21=67.304 1E22=48.307 1E23=68.307 1E24=48.323 1E25=68.323 1E26=48.308
1E27=68.308 1E28=48.327 1E29=68.327 1E2A=48.32E 1E2B=68.32E 1E2C=49.330 1E2D=69.330 1E2E=CF.301
1E2F=EF.301 1E30=4B.301 1E31=6B.301 1E32=4B.323 1E33=6B.323 1E34=4B.331 1E35=6B.331 1E36=4C.323
1E37=6C.323 1E38=1E36.304 1E39=1E37.304 1E3A=4C.331 1E3B=6C.331 1E3C=4C.32D 1E3D=6C.32D
1E3E=4D.301 1E3F=6D.301 1E40=4D.307 1E41=6D.307 1E42=4D.323 1E43=6D.323 1E44=4E.307 1E45=6E.307
1E46=4E.323 1E47=6E.323 1E48=4E.331 1E49=6E.331 1E4A=4E.32D 1E4B=6E.32D 1E4C=D5.301 1E4D=F5.301
1E4E=D5.308 1E4F=F5.308 1E50=14C.300 1E51=14D.300 1E52=14C.301 1E53=14D.301 1E54=50.301
1E55=70.301 1E56=50.307 1E57=70.307 1E58=52.307 1E59=72.307 1E5A=52.323 1E5B=72.323 1E5C=1E5A.304
1E5D=1E5B.304 1E5E=52.331 1E5F=72.331 1E60=53.307 1E61=73.307 1E62=53.323 1E63=73.323 1E64=15A.307
1E65=15B.307 1E66=160.307 1E67=161.307 1E68=1E62.307 1E69=1E63.307 1E6A=54.307 1E6B=74.307
1E6C=54.323 1E6D=74.323 1E6E=54.331 1E6F=74.331 1E70=54.32D 1E71=74.32D 1E72=55.324 1E73=75.324
1E74=55.330 1E75=75.330 1E76=55.32D 1E77=75.32D 1E78=168.301 1E79=169.301 1E7A=16A.308
1E7B=16B.308 1E7C=56.303 1E7D=76.303 1E7E=56.323 1E7F=76.323 1E80=57.300 1E81=77.300 1E82=57.301
1E83=77.301 1E84=57.308 1E85=77.308 1E86=57.307 1E87=77.307 1E88=57.323 1E89=77.323 1E8A=58.307
1E8B=78.307 1E8C=58.308 1E8D=78.308 1E8E=59.307 1E8F=79.307 1E90=5A.302 1E91=7A.302 1E92=5A.323
1E93=7A.323 1E94=5A.331 1E95=7A.331 1E96=68.331 1E97=74.308 1E98=77.30A 1E99=79.30A 1E9A=o61.2BE
1E9B=17F.307 1EA0=41.323 1EA1=61.323 1EA2=41.309 1EA3=61.309 1EA4=C2.301 1EA5=E2.301 1EA6=C2.300
1EA7=E2.300 1EA8=C2.309 1EA9=E2.309 1EAA=C2.303 1EAB=E2.303 1EAC=1EA0.302 1EAD=1EA1.302
1EAE=102.301 1EAF=103.301 1EB0=102.300 1EB1=103.300 1EB2=102.309 1EB3=103.309 1EB4=102.303
1EB5=103.303 1EB6=1EA0.306 1EB7=1EA1.306 1EB8=45.323 1EB9=65.323 1EBA=45.309 1EBB=65.309
1EBC=45.303 1EBD=65.303 1EBE=CA.301 1EBF=EA.301 1EC0=CA.300 1EC1=EA.300 1EC2=CA.309 1EC3=EA.309
1EC4=CA.303 1EC5=EA.303 1EC6=1EB8.302 1EC7=1EB9.302 1EC8=49.309 1EC9=69.309 1ECA=49.323
1ECB=69.323 1ECC=4F.323 1ECD=6F.323 1ECE=4F.309 1ECF=6F.309 1ED0=D4.301 1ED1=F4.301 1ED2=D4.300
1ED3=F4.300 1ED4=D4.309 1ED5=F4.309 1ED6=D4.303 1ED7=F4.303 1ED8=1ECC.302 1ED9=1ECD.302
1EDA=1A0.301 1EDB=1A1.301 1EDC=1A0.300 1EDD=1A1.300 1EDE=1A0.309 1EDF=1A1.309 1EE0=1A0.303
1EE1=1A1.303 1EE2=1A0.323 1EE3=1A1.323 1EE4=55.323 1EE5=75.323 1EE6=55.309 1EE7=75.309
1EE8=1AF.301 1EE9=1B0.301 1EEA=1AF.300 1EEB=1B0.300 1EEC=1AF.309 1EED=1B0.309 1EEE=1AF.303
1EEF=1B0.303 1EF0=1AF.323 1EF1=1B0.323 1EF2=59.300 1EF3=79.300 1EF4=59.323 1EF5=79.323 1EF6=59.309
1EF7=79.309 1EF8=59.303 1EF9=79.303 1F00-1F01=3B1.313 1F02=1F00.300 1F03=1F01.300 1F04=1F00.301
1F05=1F01.301 1F06=1F00.342 1F07=1F01.342 1F08-1F09=391.313 1F0A=1F08.300 1F0B=1F09.300
1F0C=1F08.301 1F0D=1F09.301 1F0E=1F08.342 1F0F=1F09.342 1F10-1F11=3B5.313 1F12=1F10.300
1F13=1F11.300 1F14=1F10.301 1F15=1F11.301 1F18-1F19=395.313 1F1A=1F18.300 1F1B=1F19.300
1F1C=1F18.301 1F1D=1F19.301 1F20-1F21=3B7.313 1F22=1F20.300 1F23=1F21.300 1F24=1F20.301
1F25=1F21.301 1F26=1F20.342 1F27=1F21.342 1F28-1F29=397.313 1F2A=1F28.300 1F2B=1F29.300
1F2C=1F28.301 1F2D=1F29.301 1F2E=1F28.342 1F2F=1F29.342 1F30-1F31=3B9.313 1F32=1F30.300
1F33=1F31.300 1F34=1F30.301 1F35=1F31.301 1F36=1F30.342 1F37=1F31.342 1F38-1F39=399.313
1F3A=1F38.300 1F3B=1F39.300 1F3C=1F38.301 1F3D=1F39.301 1F3E=1F38.342 1F3F=1F39.342
1F40-1F41=3BF.313 1F42=1F40.300 1F43=1F41.300 1F44=1F40.301 1F45=1F41.301 1F48-1F49=39F.313
1F4A=1F48.300 1F4B=1F49.300 1F4C=1F48.301 1F4D=1F49.301 1F50-1F51=3C5.313 1F52=1F50.300
1F53=1F51.300 1F54=1F50.301 1F55=1F51.301 1F56=1F50.342 1F57=1F51.342 1F59=3A5.314 1F5B=1F59.300
1F5D=1F59.301 1F5F=1F59.342 1F60-1F61=3C9.313 1F62=1F60.300 1F63=1F61.300 1F64=1F60.301
1F65=1F61.301 1F66=1F60.342 1F67=1F61.342 1F68-1F69=3A9.313 1F6A=1F68.300 1F6B=1F69.300
1F6C=1F68.301 1F6D=1F69.301 1F6E=1F68.342 1F6F=1F69.342 1F70=3B1.300 1F71=3AC 1F72=3B5.300
1F73=3AD 1F74=3B7.300 1F75=3AE 1F76=3B9.300 1F77=3AF 1F78=3BF.300 1F79=3CC 1F7A=3C5.300 1F7B=3CD
1F7C=3C9.300 1F7D=3CE 1F80=1F00.345 1F81=1F01.345 1F82=1F02.345 1F83=1F03.345 1F84=1F04.345
1F85=1F05.345 1F86=1F06.345 1F87=1F07.345 1F88=1F08.345 1F89=1F09.345 1F8A=1F0A.345 1F8B=1F0B.345
1F8C=1F0C.345 1F8D=1F0D.345 1F8E=1F0E.345 1F8F=1F0F.345 1F90=1F20.345 1F91=1F21.345 1F92=1F22.345
1F93=1F23.345 1F94=1F24.345 1F95=1F25.345 1F96=1F26.345 1F97=1F27.345 1F98=1F28.345 1F99=1F29.345
1F9A=1F2A.345 1F9B=1F2B.345 1F9C=1F2C.345 1F9D=1F2D.345 1F9E=1F2E.345 1F9F=1F2F.345 1FA0=1F60.345
1FA1=1F61.345 1FA2=1F62.345 1FA3=1F63.345 1FA4=1F64.345 1FA5=1F65.345 1FA6=1F66.345 1FA7=1F67.345
1FA8=1F68.345 1FA9=1F69.345 1FAA=1F6A.345 1FAB=1F6B.345 1FAC=1F6C.345 1FAD=1F6D.345 1FAE=1F6E.345
1FAF=1F6F.345 1FB0=3B1.306 1FB1=3B1.304 1FB2=1F70.345 1FB3=3B1.345 1FB4=3AC.345 1FB6=3B1.342
1FB7=1FB6.345 1FB8=391.306 1FB9=391.304 1FBA=391.300 1FBB=386 1FBC=391.345 1FBD=o20.313 1FBE=3B9
1FBF=o20.313 1FC0=o20.342 1FC1=A8.342 1FC2=1F74.345 1FC3=3B7.345 1FC4=3AE.345 1FC6=3B7.342
1FC7=1FC6.345 1FC8=395.300 1FC9=388 1FCA=397.300 1FCB=389 1FCC=397.345 1FCD-1FCE=1FBF.300
1FCF=1FBF.342 1FD0=3B9.306 1FD1=3B9.304 1FD2=3CA.300 1FD3=390 1FD6=3B9.342 1FD7=3CA.342
1FD8=399.306 1FD9=399.304 1FDA=399.300 1FDB=38A 1FDD-1FDE=1FFE.300 1FDF=1FFE.342 1FE0=3C5.306
1FE1=3C5.304 1FE2=3CB.300 1FE3=3B0 1FE4-1FE5=3C1.313 1FE6=3C5.342 1FE7=3CB.342 1FE8=3A5.306
1FE9=3A5.304 1FEA=3A5.300 1FEB=38E 1FEC=3A1.314 1FED=A8.300 1FEE=385 1FEF=60 1FF2=1F7C.345
1FF3=3C9.345 1FF4=3CE.345 1FF6=3C9.342 1FF7=1FF6.345 1FF8=39F.300 1FF9=38C 1FFA=3A9.300 1FFB=38F
1FFC=3A9.345 1FFD=B4 1FFE=o20.314 2000-2001=2002 2002=o20 2003=o20 2004=o20 2005=o20 2006=o20
2007=b20 2008=o20 2009=o20 200A=o20 2011=b2010 2017=o20.333 2024=o2E 2025=o2E.2E 2026=o2E.2E.2E
202F=b20 2033=o2032.2032 2034=o2032.2032.2032 2036=o2035.2035 2037=o2035.2035.2035 203C=o21.21
203E=o20.305 2047=o3F.3F 2048=o3F.21 2049=o21.3F 2057=o2032.2032.2032.2032 205F=o20 2070=s30
2071=s69 2074-2079=s34 207A=s2B 207B=s2212 207C=s3D 207D-207E=s28 207F=s6E 2080-2089=u30 208A=u2B
208B=u2212 208C=u3D 208D-208E=u28 2090=u61 2091=u65 2092=u6F 2093=u78 2094=u259 2095=u68
2096-2099=u6B 209A=u70 209B-209C=u73 20A8=o52.73 2100=o61.2F.63 2101=o61.2F.73 2102=f43
2103=oB0.43 2105=o63.2F.6F 2106=o63.2F.75 2107=o190 2109=oB0.46 210A=f67 210B=f48 210C=f48
210D=f48 210E=f68 210F=f127 2110=f49 2111=f49 2112=f4C 2113=f6C 2115=f4E 2116=o4E.6F 2119-211B=f50
211C=f52 211D=f52 2120=s53.4D 2121=o54.45.4C 2122=s54.4D 2124=f5A 2126=3A9 2128=f5A 212A=4B
212B=C5 212C-212D=f42 212F=f65 2130-2131=f45 2133=f4D 2134=f6F 2135-2138=o5D0 2139=f69
213B=o46.41.58 213C=f3C0 213D=f3B3 213E=f393 213F=f3A0 2140=f2211 2145=f44 2146-2147=f64
2148-2149=f69 2150=r31.2044.37 2151=r31.2044.39 2152=r31.2044.31.30 2153=r31.2044.33
2154=r32.2044.33 2155=r31.2044.35 2156=r32.2044.35 2157=r33.2044.35 2158=r34.2044.35
2159=r31.2044.36 215A=r35.2044.36 215B=r31.2044.38 215C=r33.2044.38 215D=r35.2044.38
215E=r37.2044.38 215F=r31.2044 2160=o49 2161=o49.49 2162=o49.49.49 2163=o49.56 2164=o56
2165=o56.49 2166=o56.49.49 2167=o56.49.49.49 2168=o49.58 2169=o58 216A=o58.49 216B=o58.49.49
216C=o4C 216D-216E=o43 216F=o4D 2170=o69 2171=o69.69 2172=o69.69.69 2173=o69.76 2174=o76
2175=o76.69 2176=o76.69.69 2177=o76.69.69.69 2178=o69.78 2179=o78 217A=o78.69 217B=o78.69.69
217C=o6C 217D-217E=o63 217F=o6D 2189=r30.2044.33 219A=2190.338 219B=2192.338 21AE=2194.338
21CD=21D0.338 21CE=21D4.338 21CF=21D2.338 2204=2203.338 2209=2208.338 220C=220B.338 2224=2223.338
2226=2225.338 222C=o222B.222B 222D=o222B.222B.222B 222F=o222E.222E 2230=o222E.222E.222E
2241=223C.338 2244=2243.338 2247=2245.338 2249=2248.338 2260=3D.338 2262=2261.338 226D=224D.338
226E=3C.338 226F=3E.338 2270=2264.338 2271=2265.338 2274=2272.338 2275=2273.338 2278=2276.338
2279=2277.338 2280=227A.338 2281=227B.338 2284=2282.338 2285=2283.338 2288=2286.338 2289=2287.338
22AC=22A2.338 22AD=22A8.338 22AE=22A9.338 22AF=22AB.338 22E0=227C.338 22E1=227D.338 22E2=2291.338
22E3=2292.338 22EA=22B2.338 22EB=22B3.338 22EC=22B4.338 22ED=22B5.338 2329-232A=3008 2460-2468=c31
2469-2472=c31.30 2473=c32.30 2474=o28.31.29 2475=o28.32.29 2476=o28.33.29 2477=o28.34.29
2478=o28.35.29 2479=o28.36.29 247A=o28.37.29 247B=o28.38.29 247C=o28.39.29 247D=o28.31.30.29
247E=o28.31.31.29 247F=o28.31.32.29 2480=o28.31.33.29 2481=o28.31.34.29 2482=o28.31.35.29
2483=o28.31.36.29 2484=o28.31.37.29 2485=o28.31.38.29 2486=o28.31.39.29 2487=o28.32.30.29
2488=o31.2E 2489=o32.2E 248A=o33.2E 248B=o34.2E 248C=o35.2E 248D=o36.2E 248E=o37.2E 248F=o38.2E
2490=o39.2E 2491=o31.30.2E 2492=o31.31.2E 2493=o31.32.2E 2494=o31.33.2E 2495=o31.34.2E
2496=o31.35.2E 2497=o31.36.2E 2498=o31.37.2E 2499=o31.38.2E 249A=o31.39.2E 249B=o32.30.2E
249C=o28.61.29 249D=o28.62.29 249E=o28.63.29 249F=o28.64.29 24A0=o28.65.29 24A1=o28.66.29
24A2=o28.67.29 24A3=o28.68.29 24A4=o28.69.29 24A5=o28.6A.29 24A6=o28.6B.29 24A7=o28.6C.29
24A8=o28.6D.29 24A9=o28.6E.29 24AA=o28.6F.29 24AB=o28.70.29 24AC=o28.71.29 24AD=o28.72.29
24AE=o28.73.29 24AF=o28.74.29 24B0=o28.75.29 24B1=o28.76.29 24B2=o28.77.29 24B3=o28.78.29
24B4=o28.79.29 24B5=o28.7A.29 24B6-24CF=c41 24D0-24E9=c61 24EA=c30 2A0C=o222B.222B.222B.222B
2A74=o3A.3A.3D 2A75=o3D.3D 2A76=o3D.3D.3D 2ADC=2ADD.338 2C7C=u6A 2C7D=s56 2D6F=s2D61 2E9F=o6BCD
2EF3=o9F9F 2F00=o4E00 2F01=o4E28 2F02=o4E36 2F03=o4E3F 2F04=o4E59 2F05=o4E85 2F06=o4E8C 2F07=o4EA0
2F08=o4EBA 2F09=o513F 2F0A=o5165 2F0B=o516B 2F0C=o5182 2F0D=o5196 2F0E=o51AB 2F0F=o51E0 2F10=o51F5
2F11=o5200 2F12=o529B 2F13=o52F9 2F14=o5315 2F15=o531A 2F16=o5338 2F17=o5341 2F18=o535C 2F19=o5369
2F1A=o5382 2F1B=o53B6 2F1C=o53C8 2F1D=o53E3 2F1E=o56D7 2F1F=o571F 2F20=o58EB 2F21=o5902 2F22=o590A
2F23=o5915 2F24=o5927 2F25=o5973 2F26=o5B50 2F27=o5B80 2F28=o5BF8 2F29=o5C0F 2F2A=o5C22 2F2B=o5C38
2F2C=o5C6E 2F2D=o5C71 2F2E=o5DDB 2F2F=o5DE5 2F30=o5DF1 2F31=o5DFE 2F32=o5E72 2F33=o5E7A 2F34=o5E7F
2F35=o5EF4 2F36=o5EFE 2F37=o5F0B 2F38=o5F13 2F39=o5F50 2F3A=o5F61 2F3B=o5F73 2F3C=o5FC3 2F3D=o6208
2F3E=o6236 2F3F=o624B 2F40=o652F 2F41=o6534 2F42=o6587 2F43=o6597 2F44=o65A4 2F45=o65B9 2F46=o65E0
2F47=o65E5 2F48=o66F0 2F49=o6708 2F4A=o6728 2F4B=o6B20 2F4C=o6B62 2F4D=o6B79 2F4E=o6BB3 2F4F=o6BCB
2F50=o6BD4 2F51=o6BDB 2F52=o6C0F 2F53=o6C14 2F54=o6C34 2F55=o706B 2F56=o722A 2F57=o7236 2F58=o723B
2F59=o723F 2F5A=o7247 2F5B=o7259 2F5C=o725B 2F5D=o72AC 2F5E=o7384 2F5F=o7389 2F60=o74DC 2F61=o74E6
2F62=o7518 2F63=o751F 2F64=o7528 2F65=o7530 2F66=o758B 2F67=o7592 2F68=o7676 2F69=o767D 2F6A=o76AE
2F6B=o76BF 2F6C=o76EE 2F6D=o77DB 2F6E=o77E2 2F6F=o77F3 2F70=o793A 2F71=o79B8 2F72=o79BE 2F73=o7A74
2F74=o7ACB 2F75=o7AF9 2F76=o7C73 2F77=o7CF8 2F78=o7F36 2F79=o7F51 2F7A=o7F8A 2F7B=o7FBD 2F7C=o8001
2F7D=o800C 2F7E=o8012 2F7F=o8033 2F80=o807F 2F81=o8089 2F82=o81E3 2F83=o81EA 2F84=o81F3 2F85=o81FC
2F86=o820C 2F87=o821B 2F88=o821F 2F89=o826E 2F8A=o8272 2F8B=o8278 2F8C=o864D 2F8D=o866B 2F8E=o8840
2F8F=o884C 2F90=o8863 2F91=o897E 2F92=o898B 2F93=o89D2 2F94=o8A00 2F95=o8C37 2F96=o8C46 2F97=o8C55
2F98=o8C78 2F99=o8C9D 2F9A=o8D64 2F9B=o8D70 2F9C=o8DB3 2F9D=o8EAB 2F9E=o8ECA 2F9F=o8F9B 2FA0=o8FB0
2FA1=o8FB5 2FA2=o9091 2FA3=o9149 2FA4=o91C6 2FA5=o91CC 2FA6=o91D1 2FA7=o9577 2FA8=o9580 2FA9=o961C
2FAA=o96B6 2FAB=o96B9 2FAC=o96E8 2FAD=o9751 2FAE=o975E 2FAF=o9762 2FB0=o9769 2FB1=o97CB 2FB2=o97ED
2FB3=o97F3 2FB4=o9801 2FB5=o98A8 2FB6=o98DB 2FB7=o98DF 2FB8=o9996 2FB9=o9999 2FBA=o99AC 2FBB=o9AA8
2FBC=o9AD8 2FBD=o9ADF 2FBE=o9B25 2FBF=o9B2F 2FC0=o9B32 2FC1=o9B3C 2FC2=o9B5A 2FC3=o9CE5 2FC4=o9E75
2FC5=o9E7F 2FC6=o9EA5 2FC7=o9EBB 2FC8=o9EC3 2FC9=o9ECD 2FCA=o9ED1 2FCB=o9EF9 2FCC=o9EFD 2FCD=o9F0E
2FCE=o9F13 2FCF=o9F20 2FD0=o9F3B 2FD1=o9F4A 2FD2=o9F52 2FD3=o9F8D 2FD4=o9F9C 2FD5=o9FA0 3000=w20
3036=o3012 3038=o5341 3039-303A=o5344 304C=304B.3099 304E=304D.3099 3050=304F.3099 3052=3051.3099
3054=3053.3099 3056=3055.3099 3058=3057.3099 305A=3059.3099 305C=305B.3099 305E=305D.3099
3060=305F.3099 3062=3061.3099 3065=3064.3099 3067=3066.3099 3069=3068.3099 3070-3071=306F.3099
3073-3074=3072.3099 3076-3077=3075.3099 3079-307A=3078.3099 307C-307D=307B.3099 3094=3046.3099
309B-309C=o20.3099 309E=309D.3099 309F=v3088.308A 30AC=30AB.3099 30AE=30AD.3099 30B0=30AF.3099
30B2=30B1.3099 30B4=30B3.3099 30B6=30B5.3099 30B8=30B7.3099 30BA=30B9.3099 30BC=30BB.3099
30BE=30BD.3099 30C0=30BF.3099 30C2=30C1.3099 30C5=30C4.3099 30C7=30C6.3099 30C9=30C8.3099
30D0-30D1=30CF.3099 30D3-30D4=30D2.3099 30D6-30D7=30D5.3099 30D9-30DA=30D8.3099
30DC-30DD=30DB.3099 30F4=30A6.3099 30F7=30EF.3099 30F8=30F0.3099 30F9=30F1.3099 30FA=30F2.3099
30FE=30FD.3099 30FF=v30B3.30C8 3131-3132=o1100 3133=o11AA 3134=o1102 3135-3136=o11AC
3137-3139=o1103 313A-313F=o11B0 3140=o111A 3141-3143=o1106 3144=o1121 3145-314E=o1109
314F-3163=o1161 3164=o1160 3165-3166=o1114 3167-3168=o11C7 3169=o11CC 316A=o11CE 316B=o11D3
316C=o11D7 316D=o11D9 316E=o111C 316F=o11DD 3170=o11DF 3171-3172=o111D 3173=o1120 3174-3175=o1122
3176=o1127 3177=o1129 3178-317C=o112B 317D=o1132 317E=o1136 317F=o1140 3180=o1147 3181=o114C
3182-3183=o11F1 3184-3186=o1157 3187-3188=o1184 3189=o1188 318A-318B=o1191 318C=o1194 318D=o119E
318E=o11A1 3192=s4E00 3193=s4E8C 3194=s4E09 3195=s56DB 3196=s4E0A 3197=s4E2D 3198=s4E0B 3199=s7532
319A=s4E59 319B=s4E19 319C=s4E01 319D=s5929 319E=s5730 319F=s4EBA 3200=o28.1100.29
3201=o28.1102.29 3202=o28.1103.29 3203=o28.1105.29 3204=o28.1106.29 3205=o28.1107.29
3206=o28.1109.29 3207=o28.110B.29 3208=o28.110C.29 3209=o28.110E.29 320A=o28.110F.29
320B=o28.1110.29 320C=o28.1111.29 320D=o28.1112.29 320E=o28.1100.1161.29 320F=o28.1102.1161.29
3210=o28.1103.1161.29 3211=o28.1105.1161.29 3212=o28.1106.1161.29 3213=o28.1107.1161.29
3214=o28.1109.1161.29 3215=o28.110B.1161.29 3216=o28.110C.1161.29 3217=o28.110E.1161.29
3218=o28.110F.1161.29 3219=o28.1110.1161.29 321A=o28.1111.1161.29 321B=o28.1112.1161.29
321C=o28.110C.116E.29 321D=o28.110B.1169.110C.1165.11AB.29 321E=o28.110B.1169.1112.116E.29
3220=o28.4E00.29 3221=o28.4E8C.29 3222=o28.4E09.29 3223=o28.56DB.29 3224=o28.4E94.29
3225=o28.516D.29 3226=o28.4E03.29 3227=o28.516B.29 3228=o28.4E5D.29 3229=o28.5341.29
322A=o28.6708.29 322B=o28.706B.29 322C=o28.6C34.29 322D=o28.6728.29 322E=o28.91D1.29
322F=o28.571F.29 3230=o28.65E5.29 3231=o28.682A.29 3232=o28.6709.29 3233=o28.793E.29
3234=o28.540D.29 3235=o28.7279.29 3236=o28.8CA1.29 3237=o28.795D.29 3238=o28.52B4.29
3239=o28.4EE3.29 323A=o28.547C.29 323B=o28.5B66.29 323C=o28.76E3.29 323D=o28.4F01.29
323E=o28.8CC7.29 323F=o28.5354.29 3240=o28.796D.29 3241=o28.4F11.29 3242=o28.81EA.29
3243=o28.81F3.29 3244=c554F 3245=c5E7C 3246=c6587 3247=c7B8F 3250=q50.54.45 3251-3259=c32.31
325A-325F=c33.30 3260=c1100 3261-3262=c1102 3263-3265=c1105 3266=c1109 3267-3268=c110B
3269-326D=c110E 326E=c1100.1161 326F=c1102.1161 3270=c1103.1161 3271=c1105.1161 3272=c1106.1161
3273=c1107.1161 3274=c1109.1161 3275=c110B.1161 3276=c110C.1161 3277=c110E.1161 3278=c110F.1161
3279=c1110.1161 327A=c1111.1161 327B=c1112.1161 327C=c110E.1161.11B7.1100.1169
327D=c110C.116E.110B.1174 327E=c110B.116E 3280=c4E00 3281=c4E8C 3282=c4E09 3283=c56DB 3284=c4E94
3285=c516D 3286=c4E03 3287=c516B 3288=c4E5D 3289=c5341 328A=c6708 328B=c706B 328C=c6C34 328D=c6728
328E=c91D1 328F=c571F 3290=c65E5 3291=c682A 3292=c6709 3293=c793E 3294=c540D 3295=c7279 3296=c8CA1
3297=c795D 3298=c52B4 3299=c79D8 329A=c7537 329B=c5973 329C=c9069 329D=c512A 329E=c5370 329F=c6CE8
32A0=c9805 32A1=c4F11 32A2=c5199 32A3=c6B63 32A4=c4E0A 32A5=c4E2D 32A6=c4E0B 32A7=c5DE6 32A8=c53F3
32A9=c533B 32AA=c5B97 32AB=c5B66 32AC=c76E3 32AD=c4F01 32AE=c8CC7 32AF=c5354 32B0=c591C
32B1-32B4=c33.36 32B5-32BE=c34.30 32BF=c35.30 32C0=o31.6708 32C1=o32.6708 32C2=o33.6708
32C3=o34.6708 32C4=o35.6708 32C5=o36.6708 32C6=o37.6708 32C7=o38.6708 32C8=o39.6708
32C9=o31.30.6708 32CA=o31.31.6708 32CB=o31.32.6708 32CC=q48.67 32CD=q65.72.67 32CE=q65.56
32CF=q4C.54.44 32D0=c30A2 32D1=c30A4 32D2=c30A6 32D3=c30A8 32D4-32D5=c30AA 32D6=c30AD 32D7=c30AF
32D8=c30B1 32D9=c30B3 32DA=c30B5 32DB=c30B7 32DC=c30B9 32DD=c30BB 32DE=c30BD 32DF=c30BF 32E0=c30C1
32E1=c30C4 32E2=c30C6 32E3=c30C8 32E4-32E9=c30CA 32EA=c30D2 32EB=c30D5 32EC=c30D8 32ED=c30DB
32EE-32F2=c30DE 32F3=c30E4 32F4=c30E6 32F5-32FA=c30E8 32FB-32FE=c30EF 32FF=q4EE4.548C
3300=q30A2.30D1.30FC.30C8 3301=q30A2.30EB.30D5.30A1 3302=q30A2.30F3.30DA.30A2 3303=q30A2.30FC.30EB
3304=q30A4.30CB.30F3.30B0 3305=q30A4.30F3.30C1 3306=q30A6.30A9.30F3 3307=q30A8.30B9.30AF.30FC.30C9
3308=q30A8.30FC.30AB.30FC 3309=q30AA.30F3.30B9 330A=q30AA.30FC.30E0 330B=q30AB.30A4.30EA
330C=q30AB.30E9.30C3.30C8 330D=q30AB.30ED.30EA.30FC 330E=q30AC.30ED.30F3 330F=q30AC.30F3.30DE
3310=q30AE.30AC 3311=q30AE.30CB.30FC 3312=q30AD.30E5.30EA.30FC 3313=q30AE.30EB.30C0.30FC
3314=q30AD.30ED 3315=q30AD.30ED.30B0.30E9.30E0 3316=q30AD.30ED.30E1.30FC.30C8.30EB
3317=q30AD.30ED.30EF.30C3.30C8 3318=q30B0.30E9.30E0 3319=q30B0.30E9.30E0.30C8.30F3
331A=q30AF.30EB.30BC.30A4.30ED 331B=q30AF.30ED.30FC.30CD 331C=q30B1.30FC.30B9 331D=q30B3.30EB.30CA
331E=q30B3.30FC.30DD 331F=q30B5.30A4.30AF.30EB 3320=q30B5.30F3.30C1.30FC.30E0
3321=q30B7.30EA.30F3.30B0 3322=q30BB.30F3.30C1 3323=q30BB.30F3.30C8 3324=q30C0.30FC.30B9
3325=q30C7.30B7 3326=q30C9.30EB 3327=q30C8.30F3 3328=q30CA.30CE 3329=q30CE.30C3.30C8
332A=q30CF.30A4.30C4 332B=q30D1.30FC.30BB.30F3.30C8 332C=q30D1.30FC.30C4 332D=q30D0.30FC.30EC.30EB
332E=q30D4.30A2.30B9.30C8.30EB 332F=q30D4.30AF.30EB 3330=q30D4.30B3 3331=q30D3.30EB
3332=q30D5.30A1.30E9.30C3.30C9 3333=q30D5.30A3.30FC.30C8 3334=q30D6.30C3.30B7.30A7.30EB
3335=q30D5.30E9.30F3 3336=q30D8.30AF.30BF.30FC.30EB 3337=q30DA.30BD 3338=q30DA.30CB.30D2
3339=q30D8.30EB.30C4 333A=q30DA.30F3.30B9 333B=q30DA.30FC.30B8 333C=q30D9.30FC.30BF
333D=q30DD.30A4.30F3.30C8 333E=q30DC.30EB.30C8 333F=q30DB.30F3 3340=q30DD.30F3.30C9
3341=q30DB.30FC.30EB 3342=q30DB.30FC.30F3 3343=q30DE.30A4.30AF.30ED 3344=q30DE.30A4.30EB
3345=q30DE.30C3.30CF 3346=q30DE.30EB.30AF 3347=q30DE.30F3.30B7.30E7.30F3 3348=q30DF.30AF.30ED.30F3
3349=q30DF.30EA 334A=q30DF.30EA.30D0.30FC.30EB 334B=q30E1.30AC 334C=q30E1.30AC.30C8.30F3
334D=q30E1.30FC.30C8.30EB 334E=q30E4.30FC.30C9 334F=q30E4.30FC.30EB 3350=q30E6.30A2.30F3
3351=q30EA.30C3.30C8.30EB 3352=q30EA.30E9 3353=q30EB.30D4.30FC 3354=q30EB.30FC.30D6.30EB
3355=q30EC.30E0 3356=q30EC.30F3.30C8.30B2.30F3 3357=q30EF.30C3.30C8 3358=o30.70B9 3359=o31.70B9
335A=o32.70B9 335B=o33.70B9 335C=o34.70B9 335D=o35.70B9 335E=o36.70B9 335F=o37.70B9 3360=o38.70B9
3361=o39.70B9 3362=o31.30.70B9 3363=o31.31.70B9 3364=o31.32.70B9 3365=o31.33.70B9 3366=o31.34.70B9
3367=o31.35.70B9 3368=o31.36.70B9 3369=o31.37.70B9 336A=o31.38.70B9 336B=o31.39.70B9
336C=o32.30.70B9 336D=o32.31.70B9 336E=o32.32.70B9 336F=o32.33.70B9 3370=o32.34.70B9
3371=q68.50.61 3372=q64.61 3373=q41.55 3374=q62.61.72 3375=q6F.56 3376=q70.63 3377=q64.6D
3378-3379=q64.6D.B2 337A=q49.55 337B=q5E73.6210 337C=q662D.548C 337D=q5927.6B63 337E=q660E.6CBB
337F=q682A.5F0F.4F1A.793E 3380=q70.41 3381=q6E.41 3382=q3BC.41 3383=q6D.41 3384=q6B.41 3385=q4B.42
3386=q4D.42 3387=q47.42 3388=q63.61.6C 3389=q6B.63.61.6C 338A=q70.46 338B=q6E.46 338C=q3BC.46
338D=q3BC.67 338E=q6D.67 338F=q6B.67 3390=q48.7A 3391=q6B.48.7A 3392=q4D.48.7A 3393=q47.48.7A
3394=q54.48.7A 3395=q3BC.2113 3396=q6D.2113 3397=q64.2113 3398=q6B.2113 3399=q66.6D 339A=q6E.6D
339B=q3BC.6D 339C=q6D.6D 339D=q63.6D 339E=q6B.6D 339F=q6D.6D.B2 33A0=q63.6D.B2 33A1=q6D.B2
33A2=q6B.6D.B2 33A3=q6D.6D.B3 33A4=q63.6D.B3 33A5=q6D.B3 33A6=q6B.6D.B3 33A7=q6D.2215.73
33A8=q6D.2215.73.B2 33A9=q50.61 33AA=q6B.50.61 33AB=q4D.50.61 33AC=q47.50.61 33AD=q72.61.64
33AE=q72.61.64.2215.73 33AF=q72.61.64.2215.73.B2 33B0=q70.73 33B1=q6E.73 33B2=q3BC.73 33B3=q6D.73
33B4=q70.56 33B5=q6E.56 33B6=q3BC.56 33B7=q6D.56 33B8=q6B.56 33B9=q4D.56 33BA=q70.57 33BB=q6E.57
33BC=q3BC.57 33BD=q6D.57 33BE=q6B.57 33BF=q4D.57 33C0=q6B.3A9 33C1=q4D.3A9 33C2=q61.2E.6D.2E
33C3=q42.71 33C4-33C5=q63.63 33C6=q43.2215.6B.67 33C7=q43.6F.2E 33C8=q64.42 33C9=q47.79
33CA=q68.61 33CB=q48.50 33CC=q69.6E 33CD=q4B.4B 33CE=q4B.4D 33CF=q6B.74 33D0-33D1=q6C.6D
33D2=q6C.6F.67 33D3=q6C.78 33D4=q6D.62 33D5=q6D.69.6C 33D6=q6D.6F.6C 33D7=q50.48 33D8=q70.2E.6D.2E
33D9=q50.50.4D 33DA=q50.52 33DB=q73.72 33DC=q53.76 33DD=q57.62 33DE=q56.2215.6D 33DF=q41.2215.6D
33E0=o31.65E5 33E1=o32.65E5 33E2=o33.65E5 33E3=o34.65E5 33E4=o35.65E5 33E5=o36.65E5 33E6=o37.65E5
33E7=o38.65E5 33E8=o39.65E5 33E9=o31.30.65E5 33EA=o31.31.65E5 33EB=o31.32.65E5 33EC=o31.33.65E5
33ED=o31.34.65E5 33EE=o31.35.65E5 33EF=o31.36.65E5 33F0=o31.37.65E5 33F1=o31.38.65E5
33F2=o31.39.65E5 33F3=o32.30.65E5 33F4=o32.31.65E5 33F5=o32.32.65E5 33F6=o32.33.65E5
33F7=o32.34.65E5 33F8=o32.35.65E5 33F9=o32.36.65E5 33FA=o32.37.65E5 33FB=o32.38.65E5
33FC=o32.39.65E5 33FD=o33.30.65E5 33FE=o33.31.65E5 33FF=q67.61.6C A69C=s44A A69D=s44C A770=sA76F
A7F1=s53 A7F2=s43 A7F3=s46 A7F4=s51 A7F8=s126 A7F9=s153 AB5C=sA727 AB5D=sAB37 AB5E=s26B AB5F=sAB52
AB69=s28D F900=8C48 F901=66F4 F902=8ECA F903=8CC8 F904=6ED1 F905=4E32 F906=53E5 F907=9F9C
F908=9F9C F909=5951 F90A=91D1 F90B=5587 F90C=5948 F90D=61F6 F90E=7669 F90F=7F85 F910=863F
F911=87BA F912=88F8 F913=908F F914=6A02 F915=6D1B F916=70D9 F917=73DE F918=843D F919=916A
F91A=99F1 F91B=4E82 F91C=5375 F91D=6B04 F91E=721B F91F=862D F920=9E1E F921=5D50 F922=6FEB
F923=85CD F924=8964 F925=62C9 F926=81D8 F927=881F F928=5ECA F929=6717 F92A=6D6A F92B=72FC
F92C=90CE F92D=4F86 F92E=51B7 F92F=52DE F930=64C4 F931=6AD3 F932=7210 F933=76E7 F934=8001
F935=8606 F936=865C F937=8DEF F938=9732 F939=9B6F F93A=9DFA F93B=788C F93C=797F F93D=7DA0
F93E=83C9 F93F=9304 F940=9E7F F941=8AD6 F942=58DF F943=5F04 F944=7C60 F945=807E F946=7262
F947=78CA F948=8CC2 F949=96F7 F94A=58D8 F94B=5C62 F94C=6A13 F94D=6DDA F94E=6F0F F94F=7D2F
F950=7E37 F951=964B F952=52D2 F953=808B F954=51DC F955=51CC F956=7A1C F957=7DBE F958=83F1
F959=9675 F95A=8B80 F95B=62CF F95C=6A02 F95D=8AFE F95E=4E39 F95F=5BE7 F960=6012 F961=7387
F962=7570 F963=5317 F964=78FB F965=4FBF F966=5FA9 F967=4E0D F968=6CCC F969=6578 F96A=7D22
F96B=53C3 F96C=585E F96D=7701 F96E=8449 F96F=8AAA F970=6BBA F971=8FB0 F972=6C88 F973=62FE
F974=82E5 F975=63A0 F976=7565 F977=4EAE F978=5169 F979=51C9 F97A=6881 F97B=7CE7 F97C=826F
F97D=8AD2 F97E=91CF F97F=52F5 F980=5442 F981=5973 F982=5EEC F983=65C5 F984=6FFE F985=792A
F986=95AD F987=9A6A F988=9E97 F989=9ECE F98A=529B F98B=66C6 F98C=6B77 F98D=8F62 F98E=5E74
F98F=6190 F990=6200 F991=649A F992=6F23 F993=7149 F994=7489 F995=79CA F996=7DF4 F997=806F
F998=8F26 F999=84EE F99A=9023 F99B=934A F99C=5217 F99D=52A3 F99E=54BD F99F=70C8 F9A0=88C2
F9A1=8AAA F9A2=5EC9 F9A3=5FF5 F9A4=637B F9A5=6BAE F9A6=7C3E F9A7=7375 F9A8=4EE4 F9A9=56F9
F9AA=5BE7 F9AB=5DBA F9AC=601C F9AD=73B2 F9AE=7469 F9AF=7F9A F9B0=8046 F9B1=9234 F9B2=96F6
F9B3=9748 F9B4=9818 F9B5=4F8B F9B6=79AE F9B7=91B4 F9B8=96B8 F9B9=60E1 F9BA=4E86 F9BB=50DA
F9BC=5BEE F9BD=5C3F F9BE=6599 F9BF=6A02 F9C0=71CE F9C1=7642 F9C2=84FC F9C3=907C F9C4=9F8D
F9C5=6688 F9C6=962E F9C7=5289 F9C8=677B F9C9=67F3 F9CA=6D41 F9CB=6E9C F9CC=7409 F9CD=7559
F9CE=786B F9CF=7D10 F9D0=985E F9D1=516D F9D2=622E F9D3=9678 F9D4=502B F9D5=5D19 F9D6=6DEA
F9D7=8F2A F9D8=5F8B F9D9=6144 F9DA=6817 F9DB=7387 F9DC=9686 F9DD=5229 F9DE=540F F9DF=5C65
F9E0=6613 F9E1=674E F9E2=68A8 F9E3=6CE5 F9E4=7406 F9E5=75E2 F9E6=7F79 F9E7=88CF F9E8=88E1
F9E9=91CC F9EA=96E2 F9EB=533F F9EC=6EBA F9ED=541D F9EE=71D0 F9EF=7498 F9F0=85FA F9F1=96A3
F9F2=9C57 F9F3=9E9F F9F4=6797 F9F5=6DCB F9F6=81E8 F9F7=7ACB F9F8=7B20 F9F9=7C92 F9FA=72C0
F9FB=7099 F9FC=8B58 F9FD=4EC0 F9FE=8336 F9FF=523A FA00=5207 FA01=5EA6 FA02=62D3 FA03=7CD6
FA04=5B85 FA05=6D1E FA06=66B4 FA07=8F3B FA08=884C FA09=964D FA0A=898B FA0B=5ED3 FA0C=5140
FA0D=55C0 FA10=585A FA12=6674 FA15=51DE FA16=732A FA17=76CA FA18=793C FA19=795E FA1A=7965
FA1B=798F FA1C=9756 FA1D=7CBE FA1E=7FBD FA20=8612 FA22=8AF8 FA25=9038 FA26=90FD FA2A=98EF
FA2B=98FC FA2C=9928 FA2D=9DB4 FA2E=90DE FA2F=96B7 FA30=4FAE FA31=50E7 FA32=514D FA33=52C9
FA34=52E4 FA35=5351 FA36=559D FA37=5606 FA38=5668 FA39=5840 FA3A=58A8 FA3B=5C64 FA3C=5C6E
FA3D=6094 FA3E=6168 FA3F=618E FA40=61F2 FA41=654F FA42=65E2 FA43=6691 FA44=6885 FA45=6D77
FA46=6E1A FA47=6F22 FA48=716E FA49=722B FA4A=7422 FA4B=7891 FA4C=793E FA4D=7949 FA4E=7948
FA4F=7950 FA50=7956 FA51=795D FA52-FA53=798D FA54=7A40 FA55=7A81 FA56=7BC0 FA57=7DF4 FA58=7E09
FA59=7E41 FA5A=7F72 FA5B=8005 FA5C=81ED FA5D=8279 FA5E=8279 FA5F=8457 FA60=8910 FA61=8996
FA62=8B01 FA63=8B39 FA64=8CD3 FA65=8D08 FA66=8FB6 FA67=9038 FA68=96E3 FA69=97FF FA6A=983B
FA6B=6075 FA6C=242EE FA6D=8218 FA70=4E26 FA71=51B5 FA72=5168 FA73=4F80 FA74=5145 FA75=5180
FA76=52C7 FA77=52FA FA78=559D FA79=5555 FA7A=5599 FA7B=55E2 FA7C=585A FA7D=58B3 FA7E=5944
FA7F=5954 FA80=5A62 FA81=5B28 FA82=5ED2 FA83=5ED9 FA84=5F69 FA85=5FAD FA86=60D8 FA87=614E
FA88=6108 FA89=618E FA8A=6160 FA8B=61F2 FA8C=6234 FA8D=63C4 FA8E=641C FA8F=6452 FA90=6556
FA91=6674 FA92=6717 FA93=671B FA94=6756 FA95=6B79 FA96=6BBA FA97=6D41 FA98=6EDB FA99=6ECB
FA9A=6F22 FA9B=701E FA9C=716E FA9D=77A7 FA9E=7235 FA9F=72AF FAA0=732A FAA1=7471 FAA2=7506
FAA3=753B FAA4=761D FAA5=761F FAA6=76CA FAA7=76DB FAA8=76F4 FAA9=774A FAAA=7740 FAAB=78CC
FAAC=7AB1 FAAD=7BC0 FAAE=7C7B FAAF=7D5B FAB0=7DF4 FAB1=7F3E FAB2=8005 FAB3=8352 FAB4=83EF
FAB5=8779 FAB6=8941 FAB7=8986 FAB8=8996 FAB9=8ABF FABA=8AF8 FABB=8ACB FABC=8B01 FABD=8AFE
FABE=8AED FABF=8B39 FAC0=8B8A FAC1=8D08 FAC2=8F38 FAC3=9072 FAC4=9199 FAC5=9276 FAC6=967C
FAC7=96E3 FAC8=9756 FAC9=97DB FACA=97FF FACB=980B FACC=983B FACD=9B12 FACE=9F9C FACF=2284A
FAD0=22844 FAD1=233D5 FAD2=3B9D FAD3=4018 FAD4=4039 FAD5=25249 FAD6=25CD0 FAD7=27ED3 FAD8=9F43
FAD9=9F8E FB00=o66.66 FB01=o66.69 FB02=o66.6C FB03=o66.66.69 FB04=o66.66.6C FB05=o17F.74
FB06=o73.74 FB13=o574.576 FB14=o574.565 FB15=o574.56B FB16=o57E.576 FB17=o574.56D FB1D=5D9.5B4
FB1F=5F2.5B7 FB20=f5E2 FB21=f5D0 FB22-FB23=f5D3 FB24-FB26=f5DB FB27=f5E8 FB28=f5EA FB29=f2B
FB2A-FB2B=5E9.5C1 FB2C-FB2D=FB49.5C1 FB2E-FB2F=5D0.5B7 FB30=5D0.5BC FB31=5D1.5BC FB32=5D2.5BC
FB33=5D3.5BC FB34=5D4.5BC FB35=5D5.5BC FB36=5D6.5BC FB38=5D8.5BC FB39=5D9.5BC FB3A=5DA.5BC
FB3B=5DB.5BC FB3C=5DC.5BC FB3E=5DE.5BC FB40=5E0.5BC FB41=5E1.5BC FB43=5E3.5BC FB44=5E4.5BC
FB46=5E6.5BC FB47=5E7.5BC FB48=5E8.5BC FB49=5E9.5BC FB4A=5EA.5BC FB4B=5D5.5B9 FB4C=5D1.5BF
FB4D=5DB.5BF FB4E=5E4.5BF FB4F=o5D0.5DC FB50=l671 FB51=e671 FB52=l67B FB53=e67B FB54=i67B
FB55=m67B FB56=l67E FB57=e67E FB58=i67E FB59=m67E FB5A=l680 FB5B=e680 FB5C=i680 FB5D=m680
FB5E=l67A FB5F=e67A FB60=i67A FB61=m67A FB62=l67F FB63=e67F FB64=i67F FB65=m67F FB66=l679
FB67=e679 FB68=i679 FB69=m679 FB6A=l6A4 FB6B=e6A4 FB6C=i6A4 FB6D=m6A4 FB6E=l6A6 FB6F=e6A6
FB70=i6A6 FB71=m6A6 FB72=l684 FB73=e684 FB74=i684 FB75=m684 FB76=l683 FB77=e683 FB78=i683
FB79=m683 FB7A=l686 FB7B=e686 FB7C=i686 FB7D=m686 FB7E=l687 FB7F=e687 FB80=i687 FB81=m687
FB82=l68D FB83=e68D FB84=l68C FB85=e68C FB86=l68E FB87=e68E FB88=l688 FB89=e688 FB8A=l698
FB8B=e698 FB8C=l691 FB8D=e691 FB8E=l6A9 FB8F=e6A9 FB90=i6A9 FB91=m6A9 FB92=l6AF FB93=e6AF
FB94=i6AF FB95=m6AF FB96=l6B3 FB97=e6B3 FB98=i6B3 FB99=m6B3 FB9A=l6B1 FB9B=e6B1 FB9C=i6B1
FB9D=m6B1 FB9E=l6BA FB9F=e6BA FBA0=l6BB FBA1=e6BB FBA2=i6BB FBA3=m6BB FBA4=l6C0 FBA5=e6C0
FBA6=l6C1 FBA7=e6C1 FBA8=i6C1 FBA9=m6C1 FBAA=l6BE FBAB=e6BE FBAC=i6BE FBAD=m6BE FBAE=l6D2
FBAF=e6D2 FBB0=l6D3 FBB1=e6D3 FBD3=l6AD FBD4=e6AD FBD5=i6AD FBD6=m6AD FBD7=l6C7 FBD8=e6C7
FBD9=l6C6 FBDA=e6C6 FBDB=l6C8 FBDC=e6C8 FBDD=l677 FBDE=l6CB FBDF=e6CB FBE0=l6C5 FBE1=e6C5
FBE2=l6C9 FBE3=e6C9 FBE4=l6D0 FBE5=e6D0 FBE6=i6D0 FBE7=m6D0 FBE8=i649 FBE9=m649 FBEA=l626.627
FBEB=e626.627 FBEC=l626.6D5 FBED=e626.6D5 FBEE=l626.648 FBEF=e626.648 FBF0=l626.6C7 FBF1=e626.6C7
FBF2=l626.6C6 FBF3=e626.6C6 FBF4=l626.6C8 FBF5=e626.6C8 FBF6=l626.6D0 FBF7=e626.6D0 FBF8=i626.6D0
FBF9=l626.649 FBFA=e626.649 FBFB=i626.649 FBFC=l6CC FBFD=e6CC FBFE=i6CC FBFF=m6CC
FC00-FC01=l626.62C FC02=l626.645 FC03-FC04=l626.649 FC05-FC07=l628.62C FC08=l628.645
FC09-FC0A=l628.649 FC0B-FC0D=l62A.62C FC0E=l62A.645 FC0F-FC10=l62A.649 FC11=l62B.62C FC12=l62B.645
FC13-FC14=l62B.649 FC15=l62C.62D FC16=l62C.645 FC17=l62D.62C FC18=l62D.645 FC19-FC1A=l62E.62C
FC1B=l62E.645 FC1C-FC1E=l633.62C FC1F=l633.645 FC20=l635.62D FC21=l635.645 FC22-FC24=l636.62C
FC25=l636.645 FC26=l637.62D FC27=l637.645 FC28=l638.645 FC29=l639.62C FC2A=l639.645 FC2B=l63A.62C
FC2C=l63A.645 FC2D-FC2F=l641.62C FC30=l641.645 FC31-FC32=l641.649 FC33=l642.62D FC34=l642.645
FC35-FC36=l642.649 FC37=l643.627 FC38-FC3A=l643.62C FC3B-FC3C=l643.644 FC3D-FC3E=l643.649
FC3F-FC41=l644.62C FC42=l644.645 FC43-FC44=l644.649 FC45-FC47=l645.62C FC48=l645.645
FC49-FC4A=l645.649 FC4B-FC4D=l646.62C FC4E=l646.645 FC4F-FC50=l646.649 FC51=l647.62C FC52=l647.645
FC53-FC54=l647.649 FC55-FC57=l64A.62C FC58=l64A.645 FC59-FC5A=l64A.649 FC5B=l630.670 FC5C=l631.670
FC5D=l649.670 FC5E=l20.64C.651 FC5F=l20.64D.651 FC60=l20.64E.651 FC61=l20.64F.651 FC62=l20.650.651
FC63=l20.651.670 FC64-FC65=e626.631 FC66-FC67=e626.645 FC68-FC69=e626.649 FC6A-FC6B=e628.631
FC6C-FC6D=e628.645 FC6E-FC6F=e628.649 FC70-FC71=e62A.631 FC72-FC73=e62A.645 FC74-FC75=e62A.649
FC76-FC77=e62B.631 FC78-FC79=e62B.645 FC7A-FC7B=e62B.649 FC7C-FC7D=e641.649 FC7E-FC7F=e642.649
FC80=e643.627 FC81-FC82=e643.644 FC83-FC84=e643.649 FC85=e644.645 FC86-FC87=e644.649 FC88=e645.627
FC89=e645.645 FC8A-FC8B=e646.631 FC8C-FC8D=e646.645 FC8E-FC8F=e646.649 FC90=e649.670
FC91-FC92=e64A.631 FC93-FC94=e64A.645 FC95-FC96=e64A.649 FC97-FC99=i626.62C FC9A=i626.645
FC9B=i626.647 FC9C-FC9E=i628.62C FC9F=i628.645 FCA0=i628.647 FCA1-FCA3=i62A.62C FCA4=i62A.645
FCA5=i62A.647 FCA6=i62B.645 FCA7=i62C.62D FCA8=i62C.645 FCA9=i62D.62C FCAA=i62D.645 FCAB=i62E.62C
FCAC=i62E.645 FCAD-FCAF=i633.62C FCB0=i633.645 FCB1-FCB2=i635.62D FCB3=i635.645 FCB4-FCB6=i636.62C
FCB7=i636.645 FCB8=i637.62D FCB9=i638.645 FCBA=i639.62C FCBB=i639.645 FCBC=i63A.62C FCBD=i63A.645
FCBE-FCC0=i641.62C FCC1=i641.645 FCC2=i642.62D FCC3=i642.645 FCC4-FCC6=i643.62C FCC7-FCC8=i643.644
FCC9-FCCB=i644.62C FCCC=i644.645 FCCD=i644.647 FCCE-FCD0=i645.62C FCD1=i645.645 FCD2-FCD4=i646.62C
FCD5=i646.645 FCD6=i646.647 FCD7=i647.62C FCD8=i647.645 FCD9=i647.670 FCDA-FCDC=i64A.62C
FCDD=i64A.645 FCDE=i64A.647 FCDF=m626.645 FCE0=m626.647 FCE1=m628.645 FCE2=m628.647 FCE3=m62A.645
FCE4=m62A.647 FCE5=m62B.645 FCE6=m62B.647 FCE7=m633.645 FCE8=m633.647 FCE9=m634.645 FCEA=m634.647
FCEB-FCEC=m643.644 FCED=m644.645 FCEE=m646.645 FCEF=m646.647 FCF0=m64A.645 FCF1=m64A.647
FCF2=m640.64E.651 FCF3=m640.64F.651 FCF4=m640.650.651 FCF5-FCF6=l637.649 FCF7-FCF8=l639.649
FCF9-FCFA=l63A.649 FCFB-FCFC=l633.649 FCFD-FCFE=l634.649 FCFF-FD00=l62D.649 FD01-FD02=l62C.649
FD03-FD04=l62E.649 FD05-FD06=l635.649 FD07-FD08=l636.649 FD09-FD0B=l634.62C FD0C=l634.645
FD0D=l634.631 FD0E=l633.631 FD0F=l635.631 FD10=l636.631 FD11-FD12=e637.649 FD13-FD14=e639.649
FD15-FD16=e63A.649 FD17-FD18=e633.649 FD19-FD1A=e634.649 FD1B-FD1C=e62D.649 FD1D-FD1E=e62C.649
FD1F-FD20=e62E.649 FD21-FD22=e635.649 FD23-FD24=e636.649 FD25-FD27=e634.62C FD28=e634.645
FD29=e634.631 FD2A=e633.631 FD2B=e635.631 FD2C=e636.631 FD2D-FD2F=i634.62C FD30=i634.645
FD31=i633.647 FD32=i634.647 FD33=i637.645 FD34-FD36=m633.62C FD37-FD39=m634.62C FD3A=m637.645
FD3B=m638.645 FD3C=e627.64B FD3D=l627.64B FD50=i62A.62C.645 FD51=e62A.62D.62C FD52=i62A.62D.62C
FD53=i62A.62D.645 FD54=i62A.62E.645 FD55-FD57=i62A.645.62C FD58=e62C.645.62D FD59=i62C.645.62D
FD5A=e62D.645.64A FD5B=e62D.645.649 FD5C=i633.62D.62C FD5D=i633.62C.62D FD5E=e633.62C.649
FD5F=e633.645.62D FD60=i633.645.62D FD61=i633.645.62C FD62=e633.645.645 FD63=i633.645.645
FD64=e635.62D.62D FD65=i635.62D.62D FD66=e635.645.645 FD67=e634.62D.645 FD68=i634.62D.645
FD69=e634.62C.64A FD6A=e634.645.62E FD6B=i634.645.62E FD6C=e634.645.645 FD6D=i634.645.645
FD6E=e636.62D.649 FD6F=e636.62E.645 FD70=i636.62E.645 FD71=e637.645.62D FD72=i637.645.62D
FD73=i637.645.645 FD74=e637.645.64A FD75=e639.62C.645 FD76=e639.645.645 FD77=i639.645.645
FD78=e639.645.649 FD79=e63A.645.645 FD7A=e63A.645.64A FD7B=e63A.645.649 FD7C=e641.62E.645
FD7D=i641.62E.645 FD7E=e642.645.62D FD7F=e642.645.645 FD80=e644.62D.645 FD81=e644.62D.64A
FD82=e644.62D.649 FD83=i644.62C.62C FD84=e644.62C.62C FD85=e644.62E.645 FD86=i644.62E.645
FD87=e644.645.62D FD88=i644.645.62D FD89=i645.62D.62C FD8A=i645.62D.645 FD8B=e645.62D.64A
FD8C=i645.62C.62D FD8D=i645.62C.645 FD8E=i645.62E.62C FD8F=i645.62E.645 FD92=i645.62C.62E
FD93=i647.645.62C FD94=i647.645.645 FD95=i646.62D.645 FD96=e646.62D.649 FD97=e646.62C.645
FD98=i646.62C.645 FD99=e646.62C.649 FD9A=e646.645.64A FD9B=e646.645.649 FD9C=e64A.645.645
FD9D=i64A.645.645 FD9E=e628.62E.64A FD9F=e62A.62C.64A FDA0=e62A.62C.649 FDA1=e62A.62E.64A
FDA2=e62A.62E.649 FDA3=e62A.645.64A FDA4=e62A.645.649 FDA5=e62C.645.64A FDA6=e62C.62D.649
FDA7=e62C.645.649 FDA8=e633.62E.649 FDA9=e635.62D.64A FDAA=e634.62D.64A FDAB=e636.62D.64A
FDAC=e644.62C.64A FDAD=e644.645.64A FDAE=e64A.62D.64A FDAF=e64A.62C.64A FDB0=e64A.645.64A
FDB1=e645.645.64A FDB2=e642.645.64A FDB3=e646.62D.64A FDB4=i642.645.62D FDB5=i644.62D.645
FDB6=e639.645.64A FDB7=e643.645.64A FDB8=i646.62C.62D FDB9=e645.62E.64A FDBA=i644.62C.645
FDBB=e643.645.645 FDBC=e644.62C.645 FDBD=e646.62C.62D FDBE=e62C.62D.64A FDBF=e62D.62C.64A
FDC0=e645.62C.64A FDC1=e641.645.64A FDC2=e628.62D.64A FDC3=i643.645.645 FDC4=i639.62C.645
FDC5=i635.645.645 FDC6=e633.62E.64A FDC7=e646.62C.64A FDF0=l635.644.6D2 FDF1=l642.644.6D2
FDF2=l627.644.644.647 FDF3=l627.643.628.631 FDF4=l645.62D.645.62F FDF5=l635.644.639.645
FDF6=l631.633.648.644 FDF7=l639.644.64A.647 FDF8=l648.633.644.645 FDF9=l635.644.649
FDFA=l635.644.649.20.627.644.644.647.20.639.644.64A.647.20.648.633.644.645
FDFB=l62C.644.20.62C.644.627.644.647 FDFC=l631.6CC.627.644 FE10=v2C FE11-FE12=v3001 FE13-FE14=v3A
FE15=v21 FE16=v3F FE17-FE18=v3016 FE19=v2026 FE30=v2025 FE31=v2014 FE32=v2013 FE33=v5F FE34=v5F
FE35-FE36=v28 FE37=v7B FE38=v7D FE39-FE3A=v3014 FE3B-FE3C=v3010 FE3D-FE3E=v300A FE3F-FE40=v3008
FE41-FE44=v300C FE47=v5B FE48=v5D FE49=o203E FE4A=o203E FE4B=o203E FE4C=o203E FE4D=o5F FE4E=o5F
FE4F=o5F FE50=t2C FE51=t3001 FE52=t2E FE54=t3B FE55=t3A FE56=t3F FE57=t21 FE58=t2014 FE59-FE5A=t28
FE5B=t7B FE5C=t7D FE5D-FE5E=t3014 FE5F=t23 FE60=t26 FE61-FE62=t2A FE63=t2D FE64=t3C FE65=t3E
FE66=t3D FE68=t5C FE69-FE6A=t24 FE6B=t40 FE70=l20.64B FE71=m640.64B FE72=l20.64C FE74=l20.64D
FE76=l20.64E FE77=m640.64E FE78=l20.64F FE79=m640.64F FE7A=l20.650 FE7B=m640.650 FE7C=l20.651
FE7D=m640.651 FE7E=l20.652 FE7F=m640.652 FE80-FE81=l621 FE82=e622 FE83=l623 FE84=e623 FE85=l624
FE86=e624 FE87=l625 FE88=e625 FE89=l626 FE8A=e626 FE8B=i626 FE8C=m626 FE8D=l627 FE8E=e627
FE8F=l628 FE90=e628 FE91=i628 FE92=m628 FE93=l629 FE94=e629 FE95=l62A FE96=e62A FE97=i62A
FE98=m62A FE99=l62B FE9A=e62B FE9B=i62B FE9C=m62B FE9D=l62C FE9E=e62C FE9F=i62C FEA0=m62C
FEA1=l62D FEA2=e62D FEA3=i62D FEA4=m62D FEA5=l62E FEA6=e62E FEA7=i62E FEA8=m62E FEA9=l62F
FEAA=e62F FEAB=l630 FEAC=e630 FEAD=l631 FEAE=e631 FEAF=l632 FEB0=e632 FEB1=l633 FEB2=e633
FEB3=i633 FEB4=m633 FEB5=l634 FEB6=e634 FEB7=i634 FEB8=m634 FEB9=l635 FEBA=e635 FEBB=i635
FEBC=m635 FEBD=l636 FEBE=e636 FEBF=i636 FEC0=m636 FEC1=l637 FEC2=e637 FEC3=i637 FEC4=m637
FEC5=l638 FEC6=e638 FEC7=i638 FEC8=m638 FEC9=l639 FECA=e639 FECB=i639 FECC=m639 FECD=l63A
FECE=e63A FECF=i63A FED0=m63A FED1=l641 FED2=e641 FED3=i641 FED4=m641 FED5=l642 FED6=e642
FED7=i642 FED8=m642 FED9=l643 FEDA=e643 FEDB=i643 FEDC=m643 FEDD=l644 FEDE=e644 FEDF=i644
FEE0=m644 FEE1=l645 FEE2=e645 FEE3=i645 FEE4=m645 FEE5=l646 FEE6=e646 FEE7=i646 FEE8=m646
FEE9=l647 FEEA=e647 FEEB=i647 FEEC=m647 FEED=l648 FEEE=e648 FEEF=l649 FEF0=e649 FEF1=l64A
FEF2=e64A FEF3=i64A FEF4=m64A FEF5=l644.622 FEF6=e644.622 FEF7=l644.623 FEF8=e644.623
FEF9=l644.625 FEFA=e644.625 FEFB=l644.627 FEFC=e644.627 FF01-FF5E=w21 FF5F-FF60=w2985 FF61=n3002
FF62-FF63=n300C FF64=n3001 FF65=n30FB FF66=n30F2 FF67=n30A1 FF68=n30A3 FF69=n30A5 FF6A=n30A7
FF6B=n30A9 FF6C=n30E3 FF6D=n30E5 FF6E=n30E7 FF6F=n30C3 FF70=n30FC FF71=n30A2 FF72=n30A4 FF73=n30A6
FF74=n30A8 FF75-FF76=n30AA FF77=n30AD FF78=n30AF FF79=n30B1 FF7A=n30B3 FF7B=n30B5 FF7C=n30B7
FF7D=n30B9 FF7E=n30BB FF7F=n30BD FF80=n30BF FF81=n30C1 FF82=n30C4 FF83=n30C6 FF84=n30C8
FF85-FF8A=n30CA FF8B=n30D2 FF8C=n30D5 FF8D=n30D8 FF8E=n30DB FF8F-FF93=n30DE FF94=n30E4 FF95=n30E6
FF96-FF9B=n30E8 FF9C=n30EF FF9D=n30F3 FF9E-FF9F=n3099 FFA0=n3164 FFA1-FFBE=n3131 FFC2-FFC7=n314F
FFCA-FFCF=n3155 FFD2-FFD7=n315B FFDA-FFDC=n3161 FFE0-FFE1=wA2 FFE2=wAC FFE3=wAF FFE4=wA6 FFE5=wA5
FFE6=w20A9 FFE8=n2502 FFE9-FFEC=n2190 FFED=n25A0 FFEE=n25CB 105C9=105D2.307 105E4=105DA.307
10781-10782=s2D0 10783=sE6 10784=s299 10785=s253 10787=s2A3 10788=sAB66 10789=s2A5 1078A=s2A4
1078B-1078C=s256 1078D=s1D91 1078E=s258 1078F=s25E 10790=s2A9 10791=s264 10792=s262 10793=s260
10794=s29B 10795=s127 10796=s29C 10797=s267 10798=s284 10799-1079A=s2AA 1079B=s26C 1079C=s1DF04
1079D=sA78E 1079E=s26E 1079F=s1DF05 107A0=s28E 107A1=s1DF06 107A2=sF8 107A3-107A4=s276 107A5=s71
107A6=s27A 107A7=s1DF08 107A8-107A9=s27D 107AA=s280 107AB=s2A8 107AC=s2A6 107AD=sAB67 107AE=s2A7
107AF=s288 107B0=s2C71 107B2=s28F 107B3-107B4=s2A1 107B5=s298 107B6-107B8=s1C0 107B9=s1DF0A
107BA=s1DF1E 1109A=11099.110BA 1109C=1109B.110BA 110AB=110A5.110BA 1112E=11131.11127
1112F=11132.11127 1134B=11347.1133E 1134C=11347.11357 11383=11382.113C9 11385=11384.113BB
1138E=1138B.113C2 11391=11390.113C9 113C5=113C2.113C2 113C7=113C2.113B8 113C8=113C2.113C9
114BB=114B9.114BA 114BC=114B9.114B0 114BE=114B9.114BD 115BA=115B8.115AF 115BB=115B9.115AF
11938=11935.11930 16121=1611E.1611E 16122=1611E.16129 16123=1611E.1611F 16124=16129.1611F
16125=1611E.16120 16126=16121.1611F 16127=16122.1611F 16128=16121.16120 16D68=16D67.16D67
16D69=16D63.16D67 16D6A=16D69.16D67 1CCD6-1CCEF=f41 1CCF0-1CCF9=f30 1D15E=1D157.1D165
1D15F=1D158.1D165 1D160-1D164=1D15F.1D16E 1D1BB=1D1B9.1D165 1D1BC=1D1BA.1D165 1D1BD=1D1BB.1D16E
1D1BE=1D1BC.1D16E 1D1BF=1D1BB.1D16F 1D1C0=1D1BC.1D16F 1D400-1D419=f41 1D41A-1D433=f61
1D434-1D44D=f41 1D44E-1D454=f61 1D456-1D467=f69 1D468-1D481=f41 1D482-1D49B=f61 1D49C=f41
1D49E-1D49F=f43 1D4A2=f47 1D4A5-1D4A6=f4A 1D4A9-1D4AC=f4E 1D4AE-1D4B5=f53 1D4B6-1D4B9=f61
1D4BB=f66 1D4BD-1D4C3=f68 1D4C5-1D4CF=f70 1D4D0-1D4E9=f41 1D4EA-1D503=f61 1D504-1D505=f41
1D507-1D50A=f44 1D50D-1D514=f4A 1D516-1D51C=f53 1D51E-1D537=f61 1D538-1D539=f41 1D53B-1D53E=f44
1D540-1D544=f49 1D546=f4F 1D54A-1D550=f53 1D552-1D56B=f61 1D56C-1D585=f41 1D586-1D59F=f61
1D5A0-1D5B9=f41 1D5BA-1D5D3=f61 1D5D4-1D5ED=f41 1D5EE-1D607=f61 1D608-1D621=f41 1D622-1D63B=f61
1D63C-1D655=f41 1D656-1D66F=f61 1D670-1D689=f41 1D68A-1D6A3=f61 1D6A4=f131 1D6A5=f237
1D6A8-1D6B8=f391 1D6B9=f3F4 1D6BA-1D6C0=f3A3 1D6C1=f2207 1D6C2-1D6DA=f3B1 1D6DB=f2202 1D6DC=f3F5
1D6DD=f3D1 1D6DE=f3F0 1D6DF=f3D5 1D6E0=f3F1 1D6E1=f3D6 1D6E2-1D6F2=f391 1D6F3=f3F4
1D6F4-1D6FA=f3A3 1D6FB=f2207 1D6FC-1D714=f3B1 1D715=f2202 1D716=f3F5 1D717=f3D1 1D718=f3F0
1D719=f3D5 1D71A=f3F1 1D71B=f3D6 1D71C-1D72C=f391 1D72D=f3F4 1D72E-1D734=f3A3 1D735=f2207
1D736-1D74E=f3B1 1D74F=f2202 1D750=f3F5 1D751=f3D1 1D752=f3F0 1D753=f3D5 1D754=f3F1 1D755=f3D6
1D756-1D766=f391 1D767=f3F4 1D768-1D76E=f3A3 1D76F=f2207 1D770-1D788=f3B1 1D789=f2202 1D78A=f3F5
1D78B=f3D1 1D78C=f3F0 1D78D=f3D5 1D78E=f3F1 1D78F=f3D6 1D790-1D7A0=f391 1D7A1=f3F4
1D7A2-1D7A8=f3A3 1D7A9=f2207 1D7AA-1D7C2=f3B1 1D7C3=f2202 1D7C4=f3F5 1D7C5=f3D1 1D7C6=f3F0
1D7C7=f3D5 1D7C8=f3F1 1D7C9=f3D6 1D7CA-1D7CB=f3DC 1D7CE-1D7D7=f30 1D7D8-1D7E1=f30 1D7E2-1D7EB=f30
1D7EC-1D7F5=f30 1D7F6-1D7FF=f30 1E030-1E038=s430 1E039-1E03B=s43A 1E03C-1E046=s43E 1E047=s44B
1E048-1E049=s44D 1E04A=sA689 1E04B=s4D9 1E04C=s456 1E04D=s458 1E04E=s4E9 1E04F=s4AF 1E050=s4CF
1E051-1E059=u430 1E05A-1E05B=u43A 1E05C-1E05D=u43E 1E05E=u441 1E05F-1E064=u443 1E065-1E066=u44A
1E067=u491 1E068=u456 1E069=u455 1E06A=u45F 1E06B=s4AB 1E06C=sA651 1E06D=s4B1 1EE00-1EE01=f627
1EE02=f62C 1EE03=f62F 1EE05=f648 1EE06=f632 1EE07=f62D 1EE08=f637 1EE09=f64A 1EE0A-1EE0D=f643
1EE0E=f633 1EE0F=f639 1EE10=f641 1EE11=f635 1EE12=f642 1EE13=f631 1EE14=f634 1EE15-1EE16=f62A
1EE17=f62E 1EE18=f630 1EE19=f636 1EE1A=f638 1EE1B=f63A 1EE1C=f66E 1EE1D=f6BA 1EE1E=f6A1 1EE1F=f66F
1EE21=f628 1EE22=f62C 1EE24=f647 1EE27=f62D 1EE29=f64A 1EE2A-1EE2D=f643 1EE2E=f633 1EE2F=f639
1EE30=f641 1EE31=f635 1EE32=f642 1EE34=f634 1EE35-1EE36=f62A 1EE37=f62E 1EE39=f636 1EE3B=f63A
1EE42=f62C 1EE47=f62D 1EE49=f64A 1EE4B=f644 1EE4D=f646 1EE4E=f633 1EE4F=f639 1EE51=f635 1EE52=f642
1EE54=f634 1EE57=f62E 1EE59=f636 1EE5B=f63A 1EE5D=f6BA 1EE5F=f66F 1EE61=f628 1EE62=f62C 1EE64=f647
1EE67=f62D 1EE68=f637 1EE69=f64A 1EE6A=f643 1EE6C-1EE6D=f645 1EE6E=f633 1EE6F=f639 1EE70=f641
1EE71=f635 1EE72=f642 1EE74=f634 1EE75-1EE76=f62A 1EE77=f62E 1EE79=f636 1EE7A=f638 1EE7B=f63A
1EE7C=f66E 1EE7E=f6A1 1EE80-1EE81=f627 1EE82=f62C 1EE83=f62F 1EE84-1EE85=f647 1EE86=f632
1EE87=f62D 1EE88=f637 1EE89=f64A 1EE8B-1EE8D=f644 1EE8E=f633 1EE8F=f639 1EE90=f641 1EE91=f635
1EE92=f642 1EE93=f631 1EE94=f634 1EE95-1EE96=f62A 1EE97=f62E 1EE98=f630 1EE99=f636 1EE9A=f638
1EE9B=f63A 1EEA1=f628 1EEA2=f62C 1EEA3=f62F 1EEA5=f648 1EEA6=f632 1EEA7=f62D 1EEA8=f637 1EEA9=f64A
1EEAB-1EEAD=f644 1EEAE=f633 1EEAF=f639 1EEB0=f641 1EEB1=f635 1EEB2=f642 1EEB3=f631 1EEB4=f634
1EEB5-1EEB6=f62A 1EEB7=f62E 1EEB8=f630 1EEB9=f636 1EEBA=f638 1EEBB=f63A 1F100=o30.2E 1F101=o30.2C
1F102=o31.2C 1F103=o32.2C 1F104=o33.2C 1F105=o34.2C 1F106=o35.2C 1F107=o36.2C 1F108=o37.2C
1F109=o38.2C 1F10A=o39.2C 1F110=o28.41.29 1F111=o28.42.29 1F112=o28.43.29 1F113=o28.44.29
1F114=o28.45.29 1F115=o28.46.29 1F116=o28.47.29 1F117=o28.48.29 1F118=o28.49.29 1F119=o28.4A.29
1F11A=o28.4B.29 1F11B=o28.4C.29 1F11C=o28.4D.29 1F11D=o28.4E.29 1F11E=o28.4F.29 1F11F=o28.50.29
1F120=o28.51.29 1F121=o28.52.29 1F122=o28.53.29 1F123=o28.54.29 1F124=o28.55.29 1F125=o28.56.29
1F126=o28.57.29 1F127=o28.58.29 1F128=o28.59.29 1F129=o28.5A.29 1F12A=o3014.53.3015 1F12B=c43
1F12C=c52 1F12D=c43.44 1F12E=c57.5A 1F130-1F149=q41 1F14A=q48.56 1F14B=q4D.56 1F14C=q53.44
1F14D=q53.53 1F14E=q50.50.56 1F14F=q57.43 1F16A-1F16B=s4D.43 1F16C=s4D.52 1F190=q44.4A
1F200=q307B.304B 1F201=q30B3.30B3 1F202=q30B5 1F210=q624B 1F211=q5B57 1F212=q53CC 1F213=q30C7
1F214=q4E8C 1F215=q591A 1F216=q89E3 1F217=q5929 1F218=q4EA4 1F219=q6620 1F21A=q7121 1F21B=q6599
1F21C=q524D 1F21D=q5F8C 1F21E=q518D 1F21F=q65B0 1F220=q521D 1F221=q7D42 1F222=q751F 1F223=q8CA9
1F224=q58F0 1F225=q5439 1F226=q6F14 1F227=q6295 1F228=q6355 1F229=q4E00 1F22A=q4E09 1F22B=q904A
1F22C=q5DE6 1F22D=q4E2D 1F22E=q53F3 1F22F=q6307 1F230=q8D70 1F231=q6253 1F232=q7981 1F233=q7A7A
1F234=q5408 1F235=q6E80 1F236=q6709 1F237=q6708 1F238=q7533 1F239=q5272 1F23A=q55B6 1F23B=q914D
1F240=o3014.672C.3015 1F241=o3014.4E09.3015 1F242=o3014.4E8C.3015 1F243=o3014.5B89.3015
1F244=o3014.70B9.3015 1F245=o3014.6253.3015 1F246=o3014.76D7.3015 1F247=o3014.52DD.3015
1F248=o3014.6557.3015 1F250=c5F97 1F251=c53EF 1FBF0-1FBF9=f30 2F800=4E3D 2F801=4E38 2F802=4E41
2F803=20122 2F804=4F60 2F805=4FAE 2F806=4FBB 2F807=5002 2F808=507A 2F809=5099 2F80A=50E7
2F80B=50CF 2F80C=349E 2F80D=2063A 2F80E=514D 2F80F=5154 2F810=5164 2F811=5177 2F812=2051C
2F813=34B9 2F814=5167 2F815=518D 2F816=2054B 2F817=5197 2F818=51A4 2F819=4ECC 2F81A=51AC
2F81B=51B5 2F81C=291DF 2F81D=51F5 2F81E=5203 2F81F=34DF 2F820=523B 2F821=5246 2F822=5272
2F823=5277 2F824=3515 2F825=52C7 2F826=52C9 2F827=52E4 2F828=52FA 2F829-2F82A=5305 2F82B=5317
2F82C=5349 2F82D=5351 2F82E=535A 2F82F=5373 2F830=537D 2F831=537F 2F832=537F 2F833=537F
2F834=20A2C 2F835=7070 2F836=53CA 2F837=53DF 2F838=20B63 2F839=53EB 2F83A=53F1 2F83B=5406
2F83C=549E 2F83D=5438 2F83E=5448 2F83F=5468 2F840=54A2 2F841=54F6 2F842=5510 2F843=5553 2F844=5563
2F845=5584 2F846=5584 2F847=5599 2F848=55AB 2F849=55B3 2F84A=55C2 2F84B=5716 2F84C=5606 2F84D=5717
2F84E=5651 2F84F=5674 2F850=5207 2F851=58EE 2F852=57CE 2F853=57F4 2F854=580D 2F855=578B 2F856=5832
2F857=5831 2F858=58AC 2F859=214E4 2F85A=58F2 2F85B=58F7 2F85C=5906 2F85D=591A 2F85E=5922
2F85F=5962 2F860=216A8 2F861=216EA 2F862=59EC 2F863=5A1B 2F864=5A27 2F865=59D8 2F866=5A66
2F867=36EE 2F868=36FC 2F869=5B08 2F86A=5B3E 2F86B=5B3E 2F86C=219C8 2F86D=5BC3 2F86E=5BD8
2F86F=5BE7 2F870=5BF3 2F871=21B18 2F872=5BFF 2F873=5C06 2F874=5F53 2F875=5C22 2F876=3781
2F877=5C60 2F878=5C6E 2F879=5CC0 2F87A=5C8D 2F87B=21DE4 2F87C=5D43 2F87D=21DE6 2F87E=5D6E
2F87F=5D6B 2F880=5D7C 2F881-2F882=5DE1 2F883=382F 2F884=5DFD 2F885=5E28 2F886=5E3D 2F887=5E69
2F888=3862 2F889=22183 2F88A=387C 2F88B=5EB0 2F88C=5EB3 2F88D=5EB6 2F88E=5ECA 2F88F=2A392
2F890=5EFE 2F891=22331 2F892=22331 2F893=8201 2F894=5F22 2F895=5F22 2F896=38C7 2F897=232B8
2F898=261DA 2F899=5F62 2F89A=5F6B 2F89B=38E3 2F89C=5F9A 2F89D=5FCD 2F89E=5FD7 2F89F=5FF9
2F8A0=6081 2F8A1=393A 2F8A2=391C 2F8A3=6094 2F8A4=226D4 2F8A5=60C7 2F8A6=6148 2F8A7=614C
2F8A8=614E 2F8A9=614C 2F8AA=617A 2F8AB=618E 2F8AC=61B2 2F8AD=61A4 2F8AE=61AF 2F8AF=61DE 2F8B0=61F2
2F8B1=61F6 2F8B2=6210 2F8B3=621B 2F8B4=625D 2F8B5=62B1 2F8B6=62D4 2F8B7=6350 2F8B8=22B0C
2F8B9=633D 2F8BA=62FC 2F8BB=6368 2F8BC=6383 2F8BD=63E4 2F8BE=22BF1 2F8BF=6422 2F8C0=63C5
2F8C1=63A9 2F8C2=3A2E 2F8C3=6469 2F8C4=647E 2F8C5=649D 2F8C6=6477 2F8C7=3A6C 2F8C8=654F 2F8C9=656C
2F8CA=2300A 2F8CB=65E3 2F8CC=66F8 2F8CD=6649 2F8CE=3B19 2F8CF=6691 2F8D0=3B08 2F8D1=3AE4
2F8D2=5192 2F8D3=5195 2F8D4=6700 2F8D5=669C 2F8D6=80AD 2F8D7=43D9 2F8D8=6717 2F8D9=671B 2F8DA=6721
2F8DB=675E 2F8DC=6753 2F8DD=233C3 2F8DE=3B49 2F8DF=67FA 2F8E0=6785 2F8E1=6852 2F8E2=6885
2F8E3=2346D 2F8E4=688E 2F8E5=681F 2F8E6=6914 2F8E7=3B9D 2F8E8=6942 2F8E9=69A3 2F8EA=69EA
2F8EB=6AA8 2F8EC=236A3 2F8ED=6ADB 2F8EE=3C18 2F8EF=6B21 2F8F0=238A7 2F8F1=6B54 2F8F2=3C4E
2F8F3=6B72 2F8F4=6B9F 2F8F5-2F8F6=6BBA 2F8F7=23A8D 2F8F8=21D0B 2F8F9=23AFA 2F8FA=6C4E 2F8FB=23CBC
2F8FC=6CBF 2F8FD=6CCD 2F8FE=6C67 2F8FF=6D16 2F900=6D3E 2F901=6D77 2F902=6D41 2F903=6D69 2F904=6D78
2F905=6D85 2F906=23D1E 2F907=6D34 2F908=6E2F 2F909=6E6E 2F90A=3D33 2F90B=6ECB 2F90C=6EC7
2F90D=23ED1 2F90E=6DF9 2F90F=6F6E 2F910=23F5E 2F911=23F8E 2F912=6FC6 2F913=7039 2F914=701E
2F915=701B 2F916=3D96 2F917=704A 2F918=707D 2F919=7077 2F91A=70AD 2F91B=20525 2F91C=7145
2F91D=24263 2F91E=719C 2F91F=243AB 2F920=7228 2F921=7235 2F922=7250 2F923=24608 2F924=7280
2F925=7295 2F926=24735 2F927=24814 2F928=737A 2F929=738B 2F92A=3EAC 2F92B=73A5 2F92C=3EB8
2F92D=3EB8 2F92E=7447 2F92F=745C 2F930=7471 2F931=7485 2F932=74CA 2F933=3F1B 2F934=7524
2F935=24C36 2F936=753E 2F937=24C92 2F938=7570 2F939=2219F 2F93A=7610 2F93B=24FA1 2F93C=24FB8
2F93D=25044 2F93E=3FFC 2F93F=4008 2F940=76F4 2F941=250F3 2F942=250F2 2F943=25119 2F944=25133
2F945-2F946=771E 2F947=771F 2F948=774A 2F949=4039 2F94A=778B 2F94B=4046 2F94C=4096 2F94D=2541D
2F94E=784E 2F94F=788C 2F950=78CC 2F951=40E3 2F952=25626 2F953=7956 2F954=2569A 2F955=256C5
2F956=798F 2F957=79EB 2F958=412F 2F959=7A40 2F95A=7A4A 2F95B=7A4F 2F95C=2597C 2F95D=25AA7
2F95E=25AA7 2F95F=7AEE 2F960=4202 2F961=25BAB 2F962=7BC6 2F963=7BC9 2F964=4227 2F965=25C80
2F966=7CD2 2F967=42A0 2F968=7CE8 2F969=7CE3 2F96A=7D00 2F96B=25F86 2F96C=7D63 2F96D=4301
2F96E=7DC7 2F96F=7E02 2F970=7E45 2F971=4334 2F972=26228 2F973=26247 2F974=4359 2F975=262D9
2F976=7F7A 2F977=2633E 2F978=7F95 2F979=7FFA 2F97A=8005 2F97B=264DA 2F97C=26523 2F97D=8060
2F97E=265A8 2F97F=8070 2F980=2335F 2F981=43D5 2F982=80B2 2F983=8103 2F984=440B 2F985=813E
2F986=5AB5 2F987=267A7 2F988=267B5 2F989=23393 2F98A=2339C 2F98B=8201 2F98C=8204 2F98D=8F9E
2F98E=446B 2F98F=8291 2F990=828B 2F991=829D 2F992=52B3 2F993=82B1 2F994=82B3 2F995=82BD 2F996=82E6
2F997=26B3C 2F998=82E5 2F999=831D 2F99A=8363 2F99B=83AD 2F99C=8323 2F99D=83BD 2F99E=83E7
2F99F=8457 2F9A0=8353 2F9A1=83CA 2F9A2=83CC 2F9A3=83DC 2F9A4=26C36 2F9A5=26D6B 2F9A6=26CD5
2F9A7=452B 2F9A8=84F1 2F9A9=84F3 2F9AA=8516 2F9AB=273CA 2F9AC=8564 2F9AD=26F2C 2F9AE=455D
2F9AF=4561 2F9B0=26FB1 2F9B1=270D2 2F9B2=456B 2F9B3=8650 2F9B4=865C 2F9B5=8667 2F9B6=8669
2F9B7=86A9 2F9B8=8688 2F9B9=870E 2F9BA=86E2 2F9BB=8779 2F9BC=8728 2F9BD=876B 2F9BE=8786 2F9BF=45D7
2F9C0=87E1 2F9C1=8801 2F9C2=45F9 2F9C3=8860 2F9C4=8863 2F9C5=27667 2F9C6=88D7 2F9C7=88DE
2F9C8=4635 2F9C9=88FA 2F9CA=34BB 2F9CB=278AE 2F9CC=27966 2F9CD=46BE 2F9CE=46C7 2F9CF=8AA0
2F9D0=8AED 2F9D1=8B8A 2F9D2=8C55 2F9D3=27CA8 2F9D4=8CAB 2F9D5=8CC1 2F9D6=8D1B 2F9D7=8D77
2F9D8=27F2F 2F9D9=20804 2F9DA=8DCB 2F9DB=8DBC 2F9DC=8DF0 2F9DD=208DE 2F9DE=8ED4 2F9DF=8F38
2F9E0=285D2 2F9E1=285ED 2F9E2=9094 2F9E3=90F1 2F9E4=9111 2F9E5=2872E 2F9E6=911B 2F9E7=9238
2F9E8-2F9E9=92D7 2F9EA=927C 2F9EB=93F9 2F9EC=9415 2F9ED=28BFA 2F9EE=958B 2F9EF=4995 2F9F0=95B7
2F9F1=28D77 2F9F2=49E6 2F9F3=96C3 2F9F4=5DB2 2F9F5=9723 2F9F6=29145 2F9F7=2921A 2F9F8=4A6E
2F9F9=4A76 2F9FA=97E0 2F9FB=2940A 2F9FC=4AB2 2F9FD=29496 2F9FE=980B 2F9FF=980B 2FA00=9829
2FA01=295B6 2FA02=98E2 2FA03=4B33 2FA04=9929 2FA05=99A7 2FA06=99C2 2FA07=99FE 2FA08=4BCE
2FA09=29B30 2FA0A=9B12 2FA0B=9C40 2FA0C=9CFD 2FA0D=4CCE 2FA0E=4CED 2FA0F=9D67 2FA10=2A0CE
2FA11=4CF8 2FA12=2A105 2FA13=2A20E 2FA14=2A291 2FA15=9EBB 2FA16=4D56 2FA17=9EF9 2FA18=9EFE
2FA19=9F05 2FA1A=9F0F 2FA1B=9F16 2FA1C=9F3B 2FA1D=2A600"

def spans : Array (Span Decomposition) := Span.table ofText table

/-- The canonical pairs that are not put together again. -/
def exclusionTable : String := "344 958-95F 9DC-A5E B5C-B5D F43-FB9 2ADC FB1D-FB4E 1D15E-1D1C0"

def exclusionSpans : Array (Span Unit) := Span.table (fun _ => ()) exclusionTable

/-- The decomposition of a character into the characters of one step. -/
def ofChar? (c : Char) : Option Decomposition :=
  if c.toNat < 0x80 then none
  else
    (Span.find? spans c.toNat).map fun span =>
      { span.value with parts := moveLast (c.toNat - span.first) span.value.parts }

end Decomposition

end Depot.Text

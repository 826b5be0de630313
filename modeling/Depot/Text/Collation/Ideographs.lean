import Depot.Text.Span
/-!
# The order of ideographs

Ideographs are ordered as in a dictionary: by their radical, and then by the number
of strokes beside it. What has both in common makes a group. Within a group the
blocks of code points come one after the other, those of everyday ideographs first,
and within a block the ideographs go by their code points.
-/
namespace Depot.Text.Collation

/-- The blocks in their order: the first code point of each, and how its code points are spread
over the groups. A small letter puts one to twenty-six of them into a group and moves on to the
next one; a capital moves one to twenty-six groups on, a digit so many groups back, and an equals
sign to the group with the number that follows it. A full stop passes over a code point. -/
def ideographBlocks : List (Nat × String) :=
  [(0x4E00, "
Aaffgc2afecbLbb=62Fa=017daAaaaaHbabb=007a=02CaDfd=027aJabddaaaaFcbc=38Ba=323a=043daibfdacacEaa
aaaaaDac=003a=05FfacbcHddcbfaAbbBaCaBbdtzz1z1kz1z1hz1z1qz1z1lz1z1ya2dz1z1lz1pz1jz1ja2bz1aol2aa
fcadbaaDeafgecbcbaaAaDaAbaAaAaaGadadacaa2aaaAbBaAaCafdbaabbaGcbbaabgaBaAaBaAdegeckceaadbaFacac
dacBabAbBaaeaaaBaGcbdenruovaa2hd2aAiekeaAaAbbCbbdfja2aklfe=4EFa=140cdifeacAaaDjeaacaabbaAaDaaa
EbDaddcacbcAacaaaAaaBcAaaaAcBc=003a=187dba2adAfbAaaHaBabdAbcBaGabacbdecAa2aBbEecdddfdde2aAbc2a
abAaAaCaaccbacBbaAaaDbecaaeebBaBaAaBaz1ayz1z1qz1z1mz1z1nz1z1tz1wa2e=48Ca=1FAka2nsa2z1wz1z1cz1o
b2gz1o2aa2aa=616a=1FEhv2ahwqli4aCjga3aabcbBaBa=0CFa=20Fdgribfec2aaedabDbcfsz1lz1pz1qx2amAna2z1
pz1na2ea2ez1oz1pl=ECEa=22Cqskbg=1F1a=230acaAbaaAcaeAbabcabbaEabaaaaGa5aAaaabCaCaa2aBaAdcAbAaba
AdaHgghfgAa3cf2abdefcdabAaCaAaacrdAa3z1dz1rta2w=83Ca=291dz1ia2hh2az1z1eya2z1ez1e2aez1dz1csq2ac
aa2dbgccabBdaadeiccca2aAbcAbbAabAaAadeioea2dsklhka4aBdbbAcaaHaaccabc2aAccAaaEabdcAbcBabaGbacea
bBbcAaAbAa=033a=306abafgeiedAbdAabaAaAaAaaaDaaeliAa3oz1oz1hz1dz1qyAa3sAyxwqdAa3dccgaa2bea2acEc
Aba=B87a=344bBaCaAcbaAbaaaGdAaaeaAaEhchlkjkkAa3af=914a=372ia2ajdccaaCbbAcDaFbaCaAaDecnc2aggimg
Aa2e2abllfAabcaaBaBaabbcaFabaacabaDaGaaacCaaBacbddjedfedcdbaaCaaAbbAbaAaabAbbaaaAcAbba=9C7a=40
3baabaDaaAbfiif2aada2iheaa2bfbbAabaBbbdrz1pz1z1ez1z1jz1xz1z1lz1z1cz1qv3aAz1fz1qga2ytldcdcbbBaA
decdaadbf2aAfca2aAaa2aCadAcdcdabJcaAa2gha2mka2z1sz1z1pz1z1jz1z1iz1z1ya2kgAa3z1z1lv2atAa3yka2z1
tb2az1yk2axfa2luja2ahcga2bdbaDaaBaBaBaCdecfgoob2acchdcaabEaaaAbdbaAaBaaaAaBaBbbabbAaaBaaAdbAbb
baaabaCaaBcdfc2aebdbAbaacaEbAaaAaAchiz1gz1lwszm2ahoovjb2abffaAcbaBdbaaaa2ab=4EFaVb=0D6a=506bab
AaDaCaaAdc=910a=518dfda=914a=51CaAb=917a=520aAaDbgsz1lw2az1rz1z1z1vz1z1z1kz1z1z1jz1z1z1z1dz1z1
z1mAa3bAg3aAc3aAz1z1uAg3aAz1z1p3aAcz1y2an2ahz1tz1fz1bd2aa2aiAa2nf2abdcfbAbCcAa2accgggiefgcbaBa
CaaaadbbAbdabaAaDaaaaefdhgbeeecabAaAaabadbebbbBaBaCbbbbBaDbcaEaAaAbbbidhgadecaaBaAaAcaAaFebceg
beabEbd2aAb=0AFa=5D6lz1ar2az1yz1ua2z=7AAa=5D9ina2ha2z1z1kz1z1oa2pz1z1z1ka2tb2az1z1z1k2ala2kz1z
1j2aAa2ma2c2alz1fa2g2az1oa2pz1xAa3xa2dz1x2acb2az1bAa3ez1bzslDa6bhdebcbAaaBcfmf3aAwz1kz1qz1ka2d
z1nza2r2aja2az1el2aoz1oylga2cf2accebacBaaaAbAbcaAaAaaBaFbAaAaBaAaAaaaAaAaaaBaAaaBaDaabBcebcCaA
aEaDbcehieea2ajffddaAfbAaaacbhpvtqz1dh2aog2aba2fAa2joigdcbbacCaacaa2afjvz1fz1gda2q2ajja2z1dz1i
yta2ad2ana2bpnigdcaaCaaAbaAaBaBaaAaBaabiccdeecedcaAaEaaaAbAbEaAaabcAaDbabAbBaEfada2ainl=736a=6
F1g=83Ea=6F1af2aBa3cfcbcbabaAbFaaabAbDaeioj2aomuz1arf2ag2adtj2adpca2acecbbAaAaAaaAacBbEcdadede
cAecdcabaAaBaaAbabadaaaaAaBcafigb2aacdaccbAaHaafxz1er2aAa2apoa2lymptkhedAaaAa3abaAaBaaAbaIaAaa
bcabbaCbAaaCackz1az1kzz1bfa2z1ds2aig2axb2ag2ajwqkkhabaaDbaafktca2iik2absjcedbaAbabDabaaaEaegmy
ng2ahwnpea4aAhlehdAaaa3aFacdhkghjfgifbaabaDabbhg=CEAb=812afdbAa3bAacaAbAaBabhBa3qz1oz1ez1iz1qt
3aAha2jz1bz1g2ac2abz1apme2bAkgAa2adbCaAaaclole2ajhj2aamjje2aAecAa2abaAaAaAbbAdAjAz1dAz1kAnAa3z
1bAz1jAz1z1cAa3bAz1xAz1gAz1eAa3bCa5bAxAa3aAi3aAiAiAmAbAdAaAdAbAa=850aCaAkAj3aAhArAoAiAyAwAlAgA
dAeEaIaaaba2aacAbAaccbaabAacBdchachc2abddeadBabCabeca2dfchaebAcdabEaAbglhcgidee2aAbbDcBccbHaAe
GaaaefabcbcbbAbbbabkkgdg3aAchbAa2edadAbBbBcAcbCaaeqz1gz1qz1b2akz1jz1hz1jsr=51Da=917rvgba2bdabc
DaAbCaAaBbDaabAcBaaFaAaAdaaAaCabababaBa3aaaAaaJacAaaaAcbaAaaDaAcEaadmjdjdgedcedaaaaBcBaBaAbBaC
aAabahuz1ma2pz1z1na2cga2ea2z3aAtAa3wa2dz1z1iAa3pz1z1z1z1cc=7DBa=9ADz1p2az1z1dz1n=5FBa=9AEz1tz1
z1z1hz1z1ez1yAa3cAa3aAz1kza2gz1ba2bm2aa4aBlAa2fjddAaAbDabaa=1C2a=9C6bfcbbbcbaDaaafqdBa4z1ha2az
1iAfa2z1dz1is2az2aez1sa2gz1oz1on4aBtk2al2aajkhg3aBfaabaBaAbbadFaAaaAbaedaAddEabagz1az1ma2ayz1b
Aa2z1dyua2aqn2aamffdbce3aEcaAabaDabBaaaaAbAfAa=7C6a=A3Ab7aEaAbAeAdAeAeAdAeAcAbbAa=A33aAaAaAb=7
C3a=A3BcAaAaAbAaAaAbKaAbAeba2biddbbabcabbAaAbAgArAyAz1sAz1pAu3aAnAz1rAn3aAzAz1eAz1bAnAa3oAvAkA
hAkAfAcAbca=A68aAeAlAoArAwAmAtAtAiAeAfAcGaFaAacAaaaAcaaBaaAaAbaAbAcAaaAaDaaaaaAafdedAdebAa2aGa
cbfgcbdccaBbacAdAjAsAmAjAtAiAhAc=493a=AE9dAgAcAeAdbAaAa=AD6aAcAbAmAlAkAdAkAbAdAaAdAbFaCaAbacaA
caDbdcgAlifjcaAeabAaBaaadcAa3hzv2afsz1ba2dj2akntf2aq2aAifgfdebAa2bCaAacabcgbabdaaBaBaaaAbAhAnA
iAa3pAoAiAwApAiAgAhAfAeAcAbCa=B45aAaAaAcAeAkAhAcAhAfAcAaAbPaBbccafaaaaaCabAaaAbaflvAl3aAgwz1ct
z1bnla2aii2aAb2aAcaaAbEabjoova2atqrmnmebeba2aacbBabglglnmkmhegcAadbbaBbabDaAaaAaaEaEbbnAzAz1vA
z1z1tAgDa6r3aAz1hAz1z1qBz1wBa4z1dBa4aBz1z1kAz1gAa3vAz1yAaAa3d3aAz1uAyAsAr3aCeAgAgAeAcAb=BE2abA
eAkAxAz1eAz1oBz1dBz1bAtApAkAkAfAaAbCbLbAaaAaBaCaAa=C13aMaAbAcAeAmAiAjAjAbAa3kAmAiAeAdAeAa=C22a
AaAaAeAhAbAiAdAjAeAdAaCaHbberslda2oqta2aiAhdfgaaaEaAaaAfbhgcabajcAaBbAaAaAchkcimiehggeagaadAaD
aBbbbcabAaCaAaBaAaDbAaaaDaAaAaaghmlghogdddbcAaAaaAaCbAcAacAeCa3dAabAaAb=CC7aAaCaDaAbAaIbAaaaaC
aAbbAaAbbcBaAaAcAeAjAgAiAb3gAqCa3lAkAiAeAeAcAdAaAbBb=CF8aAbAdAiAdAgAgAaAfAdCbAaAaAaBaAaAbAbBeB
bAbAbBcBfAdAfAaGb=D19aBaDcFaBaBa4aBaAaAbKaEaAa8aGbAdAdAjAgAa3eApAjAc3aAlAlAa3aAkAgAjAfAcAaAbBb
Aa=D48aAbAbAgAfAhAfAdAbAa3bAeAbAbLaaaDaGaacAccbbaaAaBaAaAbAgArAyArCa3pApAuApAoAnAgAcCdAdAbAaa=
D8BaAaAcAdAlAiAfAgAeAdAcAaCaCaAbFaaecfebcdgcadaaaAbAaaBaBaaEaabhjggd3aAagded2aAcbaAaBaaaaaaAab
AaaEabDaabaabaHaaedabfAadbAcEaAdAdAwAz1eAj3aAqAe3aAyAz1hAe3aAa5aCz1dAd3aApAxAsAlAa3cAeAfAbBaaA
a=E1FaAaAaAeAmAoAmAoAbAa3mAgAiAdAdAaJaAajAfAsAa3dAz1dAz1cAz=A5Ea=E51aAz1pAa3aAzAz1eAa3dAp=E32a
=E5BxAa3cAnAhAbAcAcAbAb=E45aBbAcAeAmAiAiAlAcAa3dAhAdAdAdAbEbFaaAaDaAaAbBb5aFaAcAbdcegdbaaaaaAa
aAaaadAcAbbbAaCaEa=E97aEaAaIabaAaaaAaAbAbcbEaaAaAaCaDbBae=5FCa=ED0ecbgebcAaaaaAaaaAabAaAcAbBaB
bAbAa=EE5aAaIaBacaEbBbaAdAabaCbBchAacaddCaaAbbAbBabbaaBbAaaaAaAa8aFaaAbAaAcAiAa3aBfBcBeBfBdEbG
a=F32aAaAaAaAdBbBbEbPaAb=3A5a=F5BaAacGc=F58aFbGaEaBa9aIbaab=5FCa=4F4a=171a=9B1a=B07a=B4Ea=BF1a
=D9EaKa=BEAa=559a=20Fa=BF6a=22Da=041a=45Ea=220a=9A5a=2E5a=0BDa=18Ba=A7Da=22Ea=5FCa=74Ca=9ACaJa
=A71a=B5Aa=772a=52Da=7CCa=7C3a=084a=410b=9ABa=A18a=5DDa=225a=7ACa=BF0a=E30a=0F0a=9AAaBa=BF7a=E
25a=007aAa=088aaBa=100a=471a=540a=57Ca=7E7aHa=8A1a=8F6aaBa=997a=9B7a=C5Ba=C85a=E3Fa=5FEa=5D1a=
7ABa=BEBa=39Fa=843a=5E0a=68Ba=AA6a=E32a=E27aCbCaCb=E52a=F0Eb=1FCa=229a=5DDa"),
   (0xFA0E, "
=1ECa=227a.=32Ca.=531aAa..........=9B2a.=9DAa.=B0Aa=B89a..=BEFaBa=C4Fa"),
   (0x3400, "
EabObZaCaLcbdfcceAcaCaAaCaBaJaIbaaDaCaHhihnlaa2iehgohdbbccbAaBaDaAaAaaFaFbabMcAaJaFaBbaaDabDaB
aBaDaAbaebcabaaRaHaOcbbfeefeblacbaaaGacbcacaaAaBdaMaaaGaCaBa=91Ca=16EbCaAcaGaBaCaBaAbFaOaKbCaa
LccbacAaabaAaCaCaEabCaEbAaaaaBaAa=AE1a=1F4ccniopwz1bpojjdgcbcabAaaEa=13Aa=210aAbaaCaEaBaAjeihA
gkggigdcbaCaaHaBaKaGbMaBaCaAbCaFacbfbAcaaBaIafgrks4aBdiwpnfebbdcaaCbCabaabAaaAaaFaabbdaddgbedc
BaBaDaDaAaaAaAaOaAaAaaHaabbadbbGabaceabbAcbCaFaAaEdhg9aGakcpojAillgecdabaDaCaLaEbaBaFaAaBaFbcf
dfbfhedbcbBbAbWbAaaBcbhgeedadcdBaaHaAaSaaaJaaBaCaAdbdfbcccabEaFaFaDaacBabAaaaEaabbhbfeacbbaAaa
Daaekntl2acz1brpmncgbecAbDaCbcacaaaabAaFabbOccioqgpma2btvohflbcdAcAbGaAbaaGbbdceledcdAbAaaEaBa
BaJa2aBaaaaaBaAaAaDbbAaAaaHaAaAa2aa2aacaBbRbfcjjflldficfbaAbaAaBaIaaJaAbba=913a=51BaacaaIaejgp
na2asv=5FAa=530bAzAra2bm2aimgkkb2aAbdIbdfede=572a=54BafcbbdAaaAaaAaBabAcBbAaCaFaAdcabfedbcaBbA
aaaAbacaaAcaaSaIaAeaagdefAeAbaDaFaFaBaCaaDadckknpz1avwnsrnghfgbcbAaGbcehfilqlhkfbba2acaabBaGbB
aBaMaaaAaBaGaBaLbAcCaBaaAaaCaGabeedhcAa2dceccbaAaaEejfhhfgffccabdCaFddghjhljdjhfAdaBaFbbbaAcbB
aDaBabbefdgfcdgbbBaAaaDaBaaaAaFaBaaQcAcbbbdacaabaaBaIaFbdfmiohllgbfcacaabCaOaAaabAabaaBaAaCaAa
bbbabbbaAaAaCabcbabaAbaAaAaaDaBbejhhrimkiigAdbabAaAaBaaAaBaBcBaAaFbbaaaIaabejggqigga2ahgacdbAa
AaEaAdccdhebeabaaaFaKbfhdqillkgcgAbdbEaAaadcgedbcfgbbaAaDaAbbdabdBaaaaGaginlmz1bnpga2kh2aaahdc
=D61a=831aAaaBaDabdfffgbggcbaabAbFaAdAnAmAjAhAlArAgAjAfAgAeAbAdAaAdAbAa=856aCa3aAaAbAaAaAbAaEa
QaafaAbAaFaAaBbccabdaAbaaaAaAaFcdcaeababCaGbgddeAbAcAaaEaBcJbaHaAaAbebAcaAaAaBbbabebcdaAaAaGaF
bbnhimqoojiddcbdaJaFaTaBaIaaBaaaPbaCaJaaaDacbdebhccgcAaMaaDbbAaAaAceljrsa2awca2jroa2ooBa4ea2a2
aalAlba2emecbbAa2aacbCaBaadbbeAaaabaEaAcciAiilj2aahpehfcecAaBaDaaaAaaaIaAaCbCaCbccfgdpkfjfbdaa
bbaAaBaaabNbAcAdAbAbAbAdAcAbAeCaCaAaDaAcaedbabb2aEaCcAbAqApAiAlApAeAeAhAgAgAfAcAa=A6EaCaCaCbAa
IaIaaAbAaaAaaCaBaBaaacaecCaCaEacAaAcbAabAaaBbCdbAabaabdHbAgAcAcAjAeAbAaAaAaCaa=AE0aCbAbSaBabEa
CcdAhfhfddfadacaaaBbbhofha2aojgeebbabaaBaFedAaabAaaBaGcAaAiAdAeAdAdAeAfAgAdAaAcAbCaaaBa=B4BaAa
Aa=B74aDaEaaaAbCbdAbgceadddabaDaEaacchgfceedaaEbBbbeffbdidaeAbbAbCaMaNaAaAdAcAgAhBdBfAkAlAiAjA
hAfAcAaGa=BE9cAcAaBaFaCcOaHaBbaDaIbAdAcAgAdAiAgCaAaAcAa=C2EaAaCaQbaeceggcfAdcb2aacAaaaIabcdabb
=843a=C68baacAaBaAaBabahcdgfebAcbaaAaDaCaJaAbaBaBaDccAbaBabaAaBcffahggfcfbbabbaEaAdCaaAcAbBaAa
aDaAaAabaaaAcaaAbAabBaFbAcAiAdAhAiAjAjAdAfAcCbAaDaaAdBfBbAeAfBgBcAbAaDaaIaaFaAcAeAjAgAgAeAhAeA
cAeAdAdaBbAaa=D5EaQbBaaGaBcHaCaAbAhAgAhAeAiAgAgAhAeAcAcAaAaAaAaAaBa=D95aAaEaTaaAbeffbdaaaaaaBa
aaDaAaBaDbAfbbdgddbaAdbaBaEaaNbaaEaAaHabbAdbaAcabDaAaaAcAhAkAeAjArAjAiAkAgAfAcAaAbFa=E25aAbGbA
cUaAfAmArAjAhAiAkAfAgAiAeAbAaAaFaAb=E4CaCbCaAaAaEaOaDaEaAaAaDaccAaaAaaAbHcbAdAaceCcAbAaa4aCaDa
CbEaAaaaaaaCabBccaaAaBaababdbccAaacaLaAaCaBaFaCbDcaAaIaaaAaAaabHbabaDaaCbJaAbAcBbBbBbBcBbAbAaA
aAbEaGa3bMaaAbDaAaAa=00Fa=1F4aa=31Ba=516bCaa=549a=D49a"),
   (0x20000, "
Bcdfkc=279a=006a=19Ea=006cd=062a=007c=056a=007bc=212a=008eb=1F8a=009a=1F8a=009b=257a=00Adec=10
Ba=00Cbbebaa2e=0C8a=010a=4F5a=012aaAbAa=20Fa=018aabdcb=C48a=01EabAa=1FDa=022aaaaAb=043a=028aba
BaAaaedenf=97Ea=035c=1BEa=035a=1BEa=036a=1BFa=59Da=037ba=6E1a=037aaOa=039fdbAa2aAaafb2aAcifeb=
6EDa=046ac=6E1a=2A8a=048fdgAbdBabadacacaaaaacAaAfced=3DFa=065dbacaaAbedgca=269a=071fjh=79Ba=26
Ba=073af=393a=074c=2EDa=075b2aAi=1FEa=077h=26Fa=077a=26Fa=077c=270a=079a=4F6a=F2Ba=07AaaAcacce
=13Aa=081b=188a=397a=081az1d=0AFa=082cz1r=1F6a=084z1g=2E8a=084hz1z1bz1z1pz1p=D47a=087m2amy=0B5
a=088w=259a=738a=088j=771a=089z1z1c=789a=089ba2gz1q=7DCa=08Ab=62Da=F39a=08Ax2a=444a=08By2aaa=1
FEa=08Bs=1FEa=08Cz1ft=A79a=08Dfxg=62Ea=08Fjjg2aeffa=511a=096b=9ECa=098aabdfidggfcica2dgga2aca=
3A5a=0A9a2abdfacadeacdabhaabadb=B84a=0BDbfbf=3DFa=0C1cbjgc=1DBa=0C7cAbc=964a=0CDadjefebcccbba=
42Ca=0D9adaabdgdcegafbc=7C9a=0E9fccaacfia2afpmlijfha3aAbgebAaaabAhdgjice=343a=10Ab=24Fa=10Aded
d=D23a=10Ddbabcc=1F4a=112amcc=CA6a=116bdaAb=22Ca=11BabAacaahha2ad2aryz1oz1gz1ry2ahz1c=7E7a=12A
hz1cz1da2etq=AE5a=12Fofcaa2ddaaAbacciommo2aAjnmpfcgdbbAbaaadcdffjgcefadcAcaaaAeagd=00Aa=167bac
b=95Aa=16BbAdQa=16EedgQa=170eebfccfbAbbbababcabaAacbb2abogkAgfdiceAdeaAaaaaAaed=046a=1A0kje=E6
Da=1A2afc=26Ba=1A4aabcBbBdafaAeaAccaBeaagljl=0BFa=1C1pqgAa3gjhtl=6BAa=1C8eaga=5B6a=1CCfaabdbeh
ce=107a=1D5acPa=1D6edbggdbaAa2cbBghhhfj=1A1a=1E8kpjg=25Aa=1EBd=0C5a=1ECgdfcabfflz1fz1z1iz1z1tz
1z1z1nz1z1ea2e=6E3a=1F9z1z1f=68Da=1FAz1z1z1z1z1nz1qa2z1z1z1ee2dz1wAc3z1z1z1sz1z1z1z1z1kz1z1r=7
DCa=1FEz1ez1z1z1q2avz1z1z1dz1z1z1cp2ax=62Ea=202gz1fz1j=246a=8B0a=205l2alimijbc2aBacdmte=6EEa=2
12dnpld2aikmca2dceabfacio=2A6a=223z1rz1yz1k=910a=225pz1z1eAz1z1jz1z1vz1z1kz1wz1z1lz1b=C1Ba=22D
nx=EFEa=22Enpa2ka2ck=A9Aa=230jkf=D5Da=232ba2ghegadaabacgdba=27Fa=240da=EFCa=241dbga=AAAa=244fa
=7B5a=247cAabbcAabaBbbdAafaddbcadaaAbccccbkiia2aeicdcbbAba4aCacg=66Ea=279hrvpwstqkoihacabbccag
nz1cz1oz1rz1vz1z1jz1z1xz1tAa2aa2j3aAz1qz1z1ka=842a=297az1zz1c=BDBa=299gsqjf3aAbjcfceaaece=19Fa
=2A7bmmfhmnfgkacdfAaaacnkswz1hz1az1hz1bz1i=1ECa=2C3z1esmnkehhaaBa4baBa4ccbaaaAaAhfaefdfgccaaba
bbdhejiqjfhjdcecaabhdkhc=9D7a=2FBbkfjhefebfaAek2aAinvxzxxloibbedccabaafuibgAcnuz1vz1g=6E1a=327
fz1pz1z1hz1z1z1kz1z1lAz1tz1xz1yla2rz1lu=285a=333h2amm4aCkkbicba2bAaaa2aAecfebcaaaeceAedbcaacbb
AdaaaacacAbcdeeabaa2aaacpvuz1gz1bz1dz1eutzrjdkccefaAcdedacc=04Da=385a=26Da=385aadaaccdadda=30B
a=391a2agaah=2F1a=11Da=396aAloury=2AAa=39Dz1i=E7Fa=39Ddz1jvxuok=9E0a=3A3dmmic=5E6a=3A8eeaAacac
Aa2abafbcaCaabcaAa3faa2ekgfhdfa=11Aa=3C7dcAaAacabAbggaabbdbiilonpjrjhlgf=843a=3E7ffggdabbAdab=
6EEa=3F3dcdccga=357a=3F9bdhacdbeaejfebeeaAa2aAdbbdnjnwz1dm=A02a=415ez1cx2abol=A06a=419bc=A07a=
41Acic=ED2a=41Cad=A0Aa=41Dabbbaagwz1z1bz1z1az1z1iz1z1z1az1z1z1zz1z1z1wz1z1z1ez1z1z1cz1z1z1sz1z
1hz1sz1qz1klnjlhAbcdbdhlqhilnfa2iui=1FFa=446befccAbdegohdebdcaaaabCcevz1wz1vz1z1wz1z1z1dz1z1z1
zz1z1z1h=773a=467z1ez1z1z1fz1z1z1ta2jz1z1z1qz1z1r2aez1qz1sz1pua2ivthndcaAaAaagcg=269a=47Eadlcc
eeAaAhvrz1dz1gb2az2agz1j2aa=773a=48Fz1f=7C8a=490wz1ffa2kkhkebfbdaacda=48BaSbfcc3a=490aRfbabbba
AaBacbdeeaa2cccAbcAaAbebccj=7C6a=4C2bheegeecbaBabcimilffcfafaaabaababdAbcbcfa2atz1crUa=4EDhz1f
z1vz1z1nl4aBz1go=3B6a=4F2yna2h=2DDa=4F3kz1o2aaur=D38a=4F6amieiac=A87a=4FCab=8B5a=4FFbAbdfjdcec
edbebbAaAbaaeac=910a=517db=911b=519fmiehba2ffeAbAbaAbcisz1zz1sz1x=226a=52Dwz1z1nz1z1z1z1hz1yAa
3z1z1qAz1z1z1z1cAz1z1ia2z1nz1z1z1z1l2aAz1x=7DDa=536z1dxa2z1z1a=7B3a=538z1zm2az1csa2vz1dtske2ac
a=275a=540bcaccahnpsnuo=ADFa=54Cevphhdecba2bdaacabbba2cuc=18Ba=55Fl=402a=560fnd=F31a=562c=3D6a
=563dheefa=333a=569afAbagjtusqz1asipkghbcccAcccngm=773a=586heqdhfbbgabAaaadbdaccaafAcbAadcbdae
hoz1juwz1fz1cz1durpqfeedcbaCbdAdbbbbbceaAa2abcabAbabacknz1jz1xz1z1fz1z1z1kz1a=01Ca=5DCz1z1s2az
1gn2az1z1z1dz1z1z1z1hz1ma2z1j=3F8a=5DFz1oz1z1z1xa2vAa3dz1z1z1o=357a=5E2z1z1ga2bz1z1ha2ca2qz1z1
az1lz1ntviggedBaaajpz1ez1yz1z1bz1z1iz1z1z1bz1z1m=E1Ea=5FAsz1qa2z1b2aAya2v=9AEa=5FCa=CA9a=5FCzz
1z1o=283a=5FDtz1uz1e=919a=5FFnz1gz1tg2aAa2pba2kg=91Ea=604gec=95Da=606dbdaa2aaaAcdgoddc=216a=61
3dfegdgaa2a2abb=886a=61BfdbCbbababcaaadddAdacdeihcAdcAfdAbaedeifgqjfkgedaaAaaabbdbaaAacdz1byjt
z1do=562a=662lv2ajm=587a=664injbgeeheaafnz1fz1e2aAfa2z1ij2az1eyy=454a=676wu2avz1pz1oznqhdfddda
aaabaclvz1lz1gz1kz1zz1z1gz1pz1ra2az1oz1fz1dk2aikkega=88Ba=69CfaaAaeeegfAa2eab2faaccbbabaAbdgkn
olk2aflih5aCahbdgcfaabafdaAaaabbb=2F2a=6D0babcgafffcaeb=3E9a=6DCbcAaabAaaacAbaa2aAabhlz1iu=049
a=6F0cvvzlqg=010a=6F6bi=BCFa=6F7heha2affccbgaaccaa2aAcbAadAbaihz1fz1fz1dz1sz1z1ez1uz1yz1lz1a2a
z1az1az1apkehdccaaaBbAbccdcabba2aAbcfpmgmolgegdidccbdbbfgjhha2cmmgkcideeb=F06aaaa=756behpm2aAk
ldlrn=0FAa=760dca2efkaebd2aAbaAbblqz1tz1oz1vz1z1ga2cz1h2ah=4C3a=773mz1z1fz1z1ds2az1hz1q2baz1mv
=CBCa=779dsmh2aa=A4Da=77CcgdaiBaabfchdlhdAa2dcgAa2ccBbAbagiujrhiegedCa2bbbflz1cz1sz1z1cz1fz1vz
1yz1ez1jz1msqwknib=D86a=7B9badcbbaafhvz1iz1cz1cz1dz1esvuohfeefdbcbAaaaaa=04Ba=7DBcdbAaaddoz1az
zs2afz1wz1zz1qz1tz1pva2jma2eo=BDEa=7EFhfdia=53Da=7F3bdcbbadmsyvz1kz1cxr=8F7a=801ipa2oti2aAfb2a
ba2enabba2cabAbbaa2eqmlnmhba2bhAa3af=4F6a=819bcfbbAa2bbbdrz1cz1du2apz1z1da2dz1z1pz1z1sz1z1z1oz
1z1xa2dz1z1t2arz1z1gz1oz1vz1ettlhgab2dcbaabdhnva2bw2aAz1lz1oz1iz1axz1eyhja2bheeeebcCgAmAz1pAz1
iAz1rAz1zAz1z1fAz1mAa3zAz1z1lAa3fAz1yAz1z1eAz1mAhAa5aAbAa3bAa3oAgAa3qAsAiAhAa3aAbbebc=85AaAaAc
AdAeAdAaAcAbAbMaAccfediggfddbbacebAa3aAa2a2aAfjmv=329a=891ei2ahil2akm=3B7a=895dnumjSa=89Akfbah
AeAccfni2ajl=1D9a=8A8qkmhnpgffbbabcAa2aAnsnuma2aj=42Ca=8BDfxk2agjob4aAabdaa2b2bacAaAbcdfaAaaBa
3bbbacAb2aaAbdebcaaaccaceckihhda2edbcahetpca2qso2ajzk2ahotkgeccbaaaccbccaeBkkx=516a=90Frz1yz1b
=518a=911zz1xz1s=51Aa=913z1lz1z1kz1z1f2bcz1qz1z1gf2aia2g=51Fa=42Ea=918v2aazz1asggkeba2acBa2aBa
dbdCa3ba2aaAbbbabagkddacfgaedcAabaedbacc=22Ba=94AecBdbb2achb2aefhjje=7DCa=957cig=5FFa=95Adb2aj
bacabAabAaAaidhbhfdccababaBbbAa2aAbaafglnda2imswk2afkwiec=764a=98CcfbAca2aaadaaaBafacffeAcAaAc
krz1jz1z1bz1z1uz1z1ga2z1ja2sz1z1z1z1z1uz1z1z1z1m=5DEa=9ADpa2yz1z1z1z1z1z1bz1z1ja2z1z1sOa=9B0z1
z1m=42Fa=9B0z1z1ba2z1oz1z1q2az1z1hAz1pb2ga2c3aAv3aAz1mz1z1z1mz1z1z1c2aAa2az1z1jz1oz1fxgBa4dl=7
D4a=9BChdDa5baaAa2a3aDacdnignmujga2bfe=D5Ba=9D1gdaAbisz1iz1wAz1ba2ba2yva2z1jz1a2aqa2z1eAa3az1z
1z1az1l2az1vz1z1d=899a=9E0sz1z1vz1z1gz1nz1rz1lpa2gtngf2afgdd=E69a=9EDfAcaecbefd2aahhbacaAdedag
faa2bbacbaaaAaepz1faa2z1ez1hz1jwa2sz1oz1kk2ada2tz1uz1bja2oka2cmeddedgdcccbbhccabaaaAabaAeAnAlA
sApAvAvAkAjAfAfAdfdfabcaacdvpglwpg2alkjddebbdbbcaAmAz1tAz1mAz1wAz1n3aAiAz1z1iAz1z1aAz1z1fAz1rA
z1oAz1aAoAa3jAz1bAmAlAhAeg=20Ba=A8Cbaa=A70a=A8FaAcdbcbffdahbbBcAacbeb=22Aa=AA5adjege2aAhfbdcab
baAa2bAadgjnkpjigeeddc2aAbeabbhrlomk2aclea2eda2ejcaAfAiAvAzAz1hAvAvAt=898a=AE5fArAz1dAzApAkAlb
2ahAdAbc=ADCaAaCaAcEaNcAbccdeffeAedbgnyAzz1ez1eo2aaa2hz1guxwlhgfbebcgqz1fz1iz1qz1z1az1nb2az1q4
aBgz1va2az1z1qp2az1lz1owunjmfcdcdcaeqoplnda2gkfnfecbAbaDgAlAz1aAzAzAz1dAz1mAz1hAz1gAzAnAvAiAmA
kAldaa2aa3aabbaAa=B4DbAaAaKaGaHbbcbdddhhc=459a=6F8a=B78ecabbabcAbabBdqz1fAz1iz1fz1lz1ia2nc2az1
z1hz1oz1tz1e=1FFa=B91qz1hzve=B5Ea=B95epgfebaaAabkz1cz1bz1bz1fz1jha2zyz1fn2awvsslgddgaBdwysuz1c
z1bz1bz1byphhhebbccbabAccbdacCa2badbacbbdAabAbBeAhAz1aAz1cAz1b=985a=BECmAz1z1fBz1z1uBz1z1z1jAz
1z1tAz1z1jAhAa3z1z1kAz1z1iAz1lAz1kAz1cAoAuAkAh7aGecaaaa=BE7bAcAdDbBdCa3aAaAaAa3aAbAbTbaAlAlngl
kghfeobAaAfAgAz1bAzAzAz1gAz1cAz1aAz1bApAwAqAa3cAgAgig2aBa3aAcc=C28cAbCbEcAbCbCaCaBafdpwwz1b=2A
Aa=C4Cz1oz1hz1tAz1bz1funildfbbbdAfcaecjnryuz1exmpslikefbbAcippuz1az1iia2xw=B93a=C7Clz1hz1eush2
aAhjiAbeabAaAbAabdaAbaaabbcdhbadbAdBacglhjgfcfibejAbdwxyvz1fz1jz1iz1cprmfc=E05a=CC2chdgBaAeAlA
kAimAjAiAhhAfdbaaf=CCBaAbFbKbAaadbaa2becAabdifdddfcebbaAdAiAwAz1eAz1eAz1uAz1iAyAzAvAvAmArAhAcf
Ae=E6Aa=D06bIaIbhAn=4A2a=D1DcBpBoAuAz1cBiBa4mBqAkApAdAa3aBceAebbae=D21bDaAcBbBbCaAaIabaAdabbac
a2aAcAnAsAz1gAtAz1cAz1oAa3iAz1rAz1aAa3hAz1jAuAa3gAuAqiiAaAdAaaa=D4EcAbAaAbAa3aAbAbAaAbAaMacaeg
gbd=494a=D74a=495a=D74aaaacbacda2bbbcgfdebaAaaBbgAgAhAa3fAa3fAz1gAz1nAwAz1pAg3aAx5aCeAz1tAwAz1
bAxAlAmAeAdAgAbbba=D91aAgAa3aAgAdAcAfAa3fAcCbEaKchpqlnvsinilfeddAbidgedgbacbabcaAefrz1ewwz1bz1
bytxkjjgdcbccabbacccAaAdcaaAbBbbbheedefdnbebbecbdmwyrvsqjlrcifdebAaAhAlAz1gAz1fAv7aEuAz1pAz1z1
sAz1yAz1z1hAz1qAz1pAz1iAvArAmAmicf=E25cCd4aDdAd4aDbCaBaDaJckAsAz1rAz1z1bAz1z1dAz1sAz1z1kAz1z1p
Az1yAz1z1nAz1z1iAa3aAz1iAm=F06a=E5FnAvAuAmAiAfdfc=E4CcAaAgAbAaAbAdIaJbdAfAacAgAhAjAdcdaBbbljop
jieeidhbaaaaAedoAg=24Fa=E98fAkopAoAhAoAfgAgb=E95aAbAaAa8aHbEaEacfhbcbfbaaaeagdmlecfAabfkaedada
Aa2adaachnmijqa2ayqiqkefhdCaecAfAgAfAebiAbaa=F6Fa=EF2a3aAacaacaaaAaAbcdhfdhadbbaBbcliAhe2ahcjj
Na=F15eebdAabbegdhbdchcbaaaabbbAa2aAeBdAcAjAlAa3eBkAa3kBlAa3jBtBpBqAiAmAfAaAjdAee=F3DaEaUdAdAa
3bBdAbAaAbAaaEa5abga2cAhcdbb=F67aJaAcdbc=1F5aYa=001aAa=306a=34Ba=102a=691a=76Fa"),
   (0x2A700, "
CbaCaaaaDaFaDaIaDaIaBabJaabaababaJaBaNaaAbAaCaaBaCaEaAdifhhkjefedcccaaKaaaBaAcCaJaIaEaaaaaIaNb
aAaaaAaFadcacdcbbaaaCaGaaBaaAaEaAaAaAabCaaEcbcbbdccAabMcbacababaDaTaBaBaCaDabAaaCaEaNaBaaAaabA
aaAaDaBaBaCaJaaJaAabddbbcbbAaAaJaaaaaAaBaBbAaabbbAbaaAaEaAcdjkmnnmigdfccAaAbIaaaabAaaAaFbekhip
AnlpkfgfdaaKaBaFaIaHaJaAaaaaaAaaaDaBaaacfcccccccBaAaFbgdeekkfifeadbabAaGdaaAcaAaAabCaEcbcdcgfe
edacAbaBaGaDbaBbaaGaaAbCaaaaLaaIcabbaAc2dAbbaaAbBaLdcfffgfAdgddcAaAaaIaAaKaCaaaaBaaAaCa2aDbaAb
BaDadcAaaaaAaaEaCbabAaAaaCaBaHbbbfbbbccbcaaAaGaAbAaaaAaFaaAaAaaCaCaOaAabaabAaBaCaAaBaIaGaDaaGa
aAbbcbcAaabGaagghjhllificebbbbaAaCaaBbbbaaaAcDaDaAaCaCaFafhimkklhjccfaaAaaLa4aEaFabbababdcabBb
AaCabaaAccMaaCaaAaaDaQbacadaabbBbaNbgjldfifhAa2facBcBaLabBaFaaabaCa4cadcbaDbAaDedimoqxAuApplgf
edcbbaAa2aGabAbabaaDaCaEaAaaabaabaJbbaaAaBaHb=48Ca=583acaAaAbEaIaIaCaBbbbAbaaaBaSaaAaAaaGaddfg
nksulrkkgfcebbaHaAcgkhhqnoijhebcAbaabAaEaAaAadbAbAbFaDaaDaIaaCaCaFabaCaFaCaFaAbcAaacaaDaFabbbd
dbaaAaaaKaAgbifmpmgjfbcdaAaaDaaCaMabaBbabFaIaFaCaAcFaMaaddbecbbcaaAabOaDdcabacbAbAaZbaAbbbaEaE
aaDbJbbabbbaabaaAaaAaBaCbcdcbdddceAaabDaDaBaObAaAaabDaaEceeffbcfcccAaAaIbbcdejbdbAaaEaJaBaAabd
dgcedaabAaKaabccbadaaDaEaababbbcaaAaBaCaafdbfffhhebadaaaaBaEbbcedadcdbcdaAcIbAbAaAcAcAeAiAeAeA
dAdAgAcAcAcAaCaaa=852aEdAbAdAfAbAcAbAdAbAaAaGaKaabaBaHaaacAbaaaAaaAaFaBdbaAcacbAaAbFaaacbabbab
CaFbBaaaBaOabaAaaAaDaAaAbcbadbbaDaEaaGcdbcdcffdcbbaaa=524a=922aDaAaaaCaGaBaAaCaFabCaLaEaFaDbBa
BaAaLaDabAaaAaAcQaFbbehiqquruhpApgddcacAbIbaAbAaBaHabegAjehegdedcbaFaDaaDaIaaBaBaBaDcceagbcfcb
aaAabGaDaJaCaAaAbAaAbCaCaDb=A3BbAaEaCaCaMbBbNbAbAdAbAcAbAeAcAdAcAbAaCaAcCaa=A6CaAbAfAeAdAdAfAd
AbAbAaAaAaKaAaCaPaBaJaBaBbAaKaBaBaaFaAcAbAbAaAcAbAcAbAaAaEba=ADEbCaAaAaEaCaKaaAaAaGaAabccbabJa
cceceecdcdbAaLbaBbaaaLaAaAbCcAaAbAbAbAaAaAaKa=B4BbAbAcAbAaAdAbAaAbAaAaCaMabFaKaAabAcaehgdfgadb
AdaHabbaccbbcAbaacAaBaBaBbcaAaabAaAaHaIaaAaBaAaHdAeAfAhAiBjBhAgAeAkAgAeAbAcAcAaAa=BE5aAaAeAcAf
BcBhAeAdAbAeAbAaCaCaAaNaAaHaCaAbAeCdAcAaCaCaEa=C28aAcAaAaAbAaCbAbEaHaabccbhbAddCaGaEaAaCaJaabb
bbbbabdabAbDaGaAbBaBaFaDaaCaaaAaAaHbbDaaaGaBaFaEaDa=CCBaCaBaCbBaQaaCaAaaAaGaAaCbAaAbAaAbAaAaCa
=CFCaAaAbAdAbAcAaAaAaGaHaDaFaBbAcFbaa=D1EaGaAaBaHaLaKaAaAdAaCdAaAbAaCb=D4CaAbAcAbAcAbAeAbCbAaE
aHaAaaAaaBaDbAaaAbaaDaDaAdCaCdAcAeCaAaAaEa=D8FaAbAbAbAcAcAbAcAbAaAaIaIaBbHaBaaKaAbaaabbaAa=DFB
aaEaEaCaAaAaabCaIaAaAbAeAhAdAdAcAeAgAfAeAbAaCaAaa=E23cAcAeAfAcAfAdAaAbAbAaAaAaJaDdAeAdAeAhAcAd
AaAeAaAaAaGa=E4CeAfAfAeAfAgAbAdAbAaAaQaaCaaHaAaAaaDaPa6aAaAaAaCaJaAaFa=ED3baIaIaGa4aHaBaPaKaFa
=F3CaBaLa=F38aDbBaBbBaBaEaPa2aMaHa=033a=917a=BA4a=1F4a=3EFa=327a=68Da=1EBa=8F4aYa=42Aa"),
   (0x2B740, "
CaBaaFa=032a=06DaSaBbAaaAaTa=0D3a=0F2aAa=127aZa=18Aaaa=1BFaBb=1F5aBaDaaAaaCa=229aAaAa=265aaVaE
aKaAbcAaAaaWaRaa=308a=325aBaa=39Db=401a=425a=463aaBaaaCa=4D3aAaWba=518aAbPaAbDbAcaaa=562aTa=5B
Caa=5DBaaAcAaaBaRaaBa=65EaSaBaUaAaAaAaa=6C8a=6F1a=711aDa=736a=757aaCaSaa=7C5aaDaZaAaPaNaEaCaUc
=844a=861aEa=85CaAaAaAaIa=8A4a=8F0a=915a=953a=9A9bacAbaaa=9E3a=A05aAaKaSa=A4Da=A83a=A6EaAaEbCa
=B25a=B4FaIaEa=B86aGbCaOaBaaQaZaXaIa=BE5aAaAbAbAdBaBaAbAaGa=C2Ca=C4Da=CCEaEa=CFEa=D1EaBa=D8AaH
aKaCa=E30aEa=E25aAaGaCaPaHaKa=E4Ca=E76a=F0Fa=F37aCaIa3a=F70a"),
   (0x2B820, "
=3CEa=004abbddadcafabaAbCbaBaaAbCabAaaLaAacadbbaaBbaCaaacaacbAbTaaaBaAbaAbBaBaAabbBbAaAaBacbfh
elsgmfb=530b=08Ac2adjegkecfAcaaEaAaaAbbabBbdaAaHaAaGbAaAbaaaDabAaJaHaAbEaaaAaAadeccbdbbacBaIbC
aaaaIaAbcbaBcDbcgdbdgeceaAacbBaAaaaBabaeeabbabbAbDaBbDbAaBaaDaFbCaaacaa2aAaaAaaababCaMabbBabab
AcAaAaGaaaAbbaAabCaAaDaaaaaaaBaAbdbaegdbbcaAaAaCaBaAbaaAcCbAaAaAaeabddbbbabbCabfglruz1erpunqkj
pjcaccaAaDaAbbbbbcaaaaaBaAabbjdglAjlihjcfcdcaIbDbaBbAaaGaFbOaAabbAbabaCaaAaAacccbagecedaAabBaA
aaclenda2hlnnmlmhgfbbbaEaBcaabbbbbbBaBaCbgcfijjknenhddacbbcCaFaaAbdAbDbDbbbAfbAbbcBaCaAaaBaCaG
ccebaaAdAbaabAbFaAbCdabbbeedAgdbfaaeAaBaaCaEaaDaEaaaaAaaabaDaCaabBabAbAdbaAbbfBbBbEabCaAcabAaG
aAbbaBaaaAbffdbdabdaaaabbAaaBaDbCaaCaAcAbbaaBbaaAaPcccedbbAabbaaAaaFaCbAbIaFaDaadabbcecbcAabBa
aCcdhfljjnjkgfcgcecEaBbabbeehbabeHaabbbaHaAaacdfopvrnkhfcfbaaa2abaaMaAaAaAaaaaghhgedgccedbacBa
BbaAaEaIaaaBaaaHbbCaBaaEaAfbbccbdadbcaaaAaCaDabccffghba2ccfcaAbHbaAabcAcaAaBcEaceacedafbbdbb9a
LaaaAcebkfa2dta2bz1aAxArskjaa2fbedadAbaBaBbabbebbcAbaaBaAaDbaabbccbbbbbabHbcbcaEaaBabbbcadacab
CaCaCaAaBaFaaBaCacaAaAabaaaaIabaaAaDaaaCaBaEdcegnpqomvkhdffcbAbCaBaCgfbfnrimfhdceeBaAbBbBaBbab
bbbbbbbAabBaBaEaEaaCcAafBaaAcAaab6aGbBaHaDaBaDaabababcbaIaAbAbdccedebcaaAaCaDaBbeggejgjfhdcacC
abaDbOaabAdAbaaCaMaaFaAbaccGbKaaabcdaAgbabDaIaEaAbdffedcabbaBbaNaEaBbbbadbHaDabAaAaIabbccfhaad
bebbbBbEabhfbdbfdbAaAaCaDaDaaNbAbaCaaaAaCacffdedeacebbaAbAaHadcbhkecgcaaBaKaBaBaAdbccddc=EC0a=
7EAadcaaaaHaAbabbaAbdAaBaEaAacbacccabaCaDaaeghllhgdfhAefaaBcEacacfddeehceacabAaIbAbAdAjAjAiAgA
dAhAgAaAfAdAcAbAa=856aAeAfAiAdAdAiAeAeAfAaCaCaJbaaAabaBaGacacabdAcAbaBaaFacacabbcbaaAaaBaGaaAb
bHbBaBaCaaFaIaFaDbAccdcbcAbAaCaAaCaAabDadcdgfdceecbAaaAaaGbaaaAbAaAaaDaBaAaAaaDaaAaCbAaaBbCaAa
aaabAaaAaAaGbAaadAaabMaaBaabacaCaNaAaEaBabcbglqnzzlsArd2ajhfdeaaJabAacBcAaaBaDbffAffmdfdfcfaaA
aaJaIaBbDaDaCaecfhegbcdbbcbaHaBaaCaJaAaEcCaAaAbCaa=A35aEcAaAa3aCaAcAaAaAaNaaaaDaHbAcAbAbAgAdAf
AfAkAaAdAbAfAcAaAaEb=A6CbAeAhAlAiAjAiAhAeAiAcAdAaAaAaAbHaBaaaJaAaEaaBaFaAbBccAbBaaIaAaBbaaCaCd
AaAbAeAeAcAcAbAaAaAbBa4aAcaEa=ADCaAcAaAaAaAdAaGaGaBaAaBaCaCacAcbdbdebaHabedfdfhfgdcaabaBaaaAaB
aaaAgacaaOaAcAaCbAbAaAcCaCb=B4DcAbAbAdAaAcAbAbCaAaLaBcAaGaJaAdAcbgfgfihkhgdAdGbAbcdgffAdbeaccb
BaDbaacAedaAcIaAaJbaCbBaIdAgAgAmBlBfAlAfAfAgAfAdAcAbAbCaAaaa=BE7dAlAlAgBgBmAhAfAgAgAdAaAaAaAaC
aAaLaLaAaAbAaCcCbAcAaAaAbAaAa=C26aAcAdAbAfAcAfAeCbAbLacabcgedAecdaaAccaAaHaababaBcAbaFabaAbfda
bccdDaAaIbIaAbAaaaAaDaBaBbIaaaaBbKaCcDaGaBa=CC9aAaAbFaDaaBaNcaaFaCaAaCbAaAdAbAbCbAaAaCaBaAa=CF
AaCbAeAhAcAgAcAaCaCaDaRa=D1Eaa2aBaa2aaAaAaAcCbAbCbBaCaEaEaGdCcAcAbAcCaAdAbBaDba=D4AbAbAbAiAdAd
AgAeAfAcAbAaaNbbaAaBaCaCbbccaJaAbCaAaAcEaAaOa=D91aAeAfAbAbAbAaAcAbAaAaAaAaAaAaJbHaAaAaAbabaaca
aaacDaAbabbCaJaDaIaaAaaaAaBaaaCbBaaBaaNbAbAbAfAeAeAeAdAdAfAdAdAdAaAcAabba=E21bAcAeAdAcAeAbAa3e
AkAbAcAgAbAaAaAaAaAaEaAcAeAhAfAba2fAfAfAfAcAcAcAaAaAaFa=E46aAbAaAbAgAeAeAfAhAdAcAeAdEaCaEaDaHa
=E71aDaAbAaEaBaabAaAaaOaAaGa=E95aDacAcEaaHaFaCaAaaEaObaAabDaFaaaBaCba3aAaJacaaaaRaCaLaAaFaCa2a
OacOaEa=F38dAcBeBbBeBbBcAaCbAaBaEbEaa9aBaHaBaIaAaAa=003aa=06DaAaBa=0BCa=124a=19Ea=677a=334a=6A
Fa=A04a"),
   (0x2CEB0, "
BadeekifececfaaDaDbBacBbFaBaAaAaaAdbbbaaaAdaBadCabdfbcdbdcaGcAaAaAaAaAaDabaAaDaacbcaebdAbbbBaa
CbfemjupssqnlfegcbAabaDceAcdabaebdaacbFaAcaaDaaaBabadcbccbacCaaBaabAgbdAbCaCaBaAgdabAcDbaAbdbe
cccccaaaAaEdAcabbAbabaEaBaaaAaaaEccehmgkkgjbaebbaCaCabBefgdceeJaaabbaAaabIaAaaaEabAbbAabBaLaDa
DbaabaAbaAbAaAaDaaCaHaaaaAeAbBbAaDaabaaccebcaaDaEbBceaAaFaAabAccbbbAbaFbikpwwz1iz1qz1jz1iz1gzt
zxndjhfdcbcaaAaAbabedbaecaaaaaaAacgjmmAmvqmlhcdebcaAaaDaCcaaaaaBaaAaCaCaBbcbaAbbabaaaAaBbaaBbc
AbbAaaFaabfcddedaAcaaaFebbfdfehelddceaeCaaCdcAdbegfbbAbaAaCaBachfdlfgdfceccbaaIaabccccdcbaBaAa
BabbaCaBaGaAaBbAbaFaBdebdaibfAabbAaaaBaaFadfjjjinAgmkbdgfcbaaaEabbaaaHaAcAabBaIabaBbCaBbbfdech
ccacAcaBaBaAbabCcBaBbaAaAaFccebbfbdffhhadcabbAaEcaNabBaaAcDaCcCaAbCaAabceedhbacbbaIbaAabIaDbcc
GbahcehfacecAaaGdjonvuvvytkhkgddaAcbaBaAacaAbaabcaaDaAabdBcBaaDaAaAabfkqvutuplolfhebFaAaaaAbBb
AabaaaabaehdfgedAbbBbaAaBaAeFbPaaBaAaAabCbaBaEacAbheadbacaabaLaaccomvuozppsjkcdaAabbaAaBbbAaAa
dEaDbbfdbeeccbdecdBaaBaAcfqpuz1dyAqAz1aohlkkdcfBaBaaAaAbAeacbabbCaGcAccaddbbdcbaAdAaBcbdciebca
beAdEaAedebcbdAaaaAaaCaAaCaDadabHaeabcbcAcdaaaAaaaDaBaEaFaaAaDbeokqz1az1etz1bzptlpdgcAdEaBacej
ikrqyqjonhbcAaAbIaadaabbabAaFaaCaBaGbbbbaGaaDabAaEaaDaaaAaDaaAedbdiabdbBaBaCaaeefhejafeabbAaaD
aDaAfhhinhdgjiddabcGaaEaAaFbBaAdaaAaBbAbAaDbCaAabaDcAaAaCbEaaAaaAaDaBiehgeebhcbbbaaaaaaBaabAab
aFbbdedgaifbecaBbBaaBaBbAaaaaaaBadcfdadbaaAbJbfacbcbaabAaaBacbadedaaabAaAaFcdhehfjmehegeAdaAbC
aaBbbCaaIaAbabAbacaCaEbbfdijjeiffdaaAcbAaEbackkgefehebbcAeacGaCaaBaaigdblhhifaaAbBbFaabadgdcge
cdAaabaDaadbbccacbAaaCaCdcjdlngqmkinhBbaaAaDbaehkggggabbAaCaHbAcAeAfAeAmAnAhAkAfAfAcAdAcAaAbAb
Aa=854aEcAcAcAcAaCbUaaaAbaaaacGaAacdaaccgfbabAaaAaDcAbbadbcAaaAbaGdafbddebAbbbBaDaaaaJaAbAaBaA
acbaDaEbaaAcccaaaAbbAaAaaaBaAbBaBcaddfgekifbecaCaCaAaBbBcAaGbcabaDbaDbAaAaCaBaAbAebabGaAaFbAbA
aaeaEaAaEaDbfbebBaCabEbAaBbEaBaFecrwsz1fz1dxz1gz1hAz1aroljeabaGacbdacbAbbbaaaCaaaeedAhngjkhgfd
fadabaAaBaaBbaFaDaCaIacagihnemiehdbbJbcAabCaabaaEaAaAcAcAcAaAaCdAaIbAbfbecaAbAaIbAbAdAiAgAhAjA
jAeAiAeAeAbAbAaCa=A74aIaEaMaAaaaaBaIaAbAaAaaAaaGaAacbBcAaHaAbbAaAaBaDaAdAgAhAdAfAjAeAdAcAfAbAc
AaaDcHaEaAabAbbbAabAaBaDaaffhbgoqikeceeebAaFaaaedEcBaAaGaAfAgAeAbAiAcAcAcAcAcAdAc=B4DaAaAaAaCb
GbSaaBaFaBbEcbAicdsmglgheebcaBaaDbchdbcccacebbAaaCabcfdfcggaddbdbAaEaaCaaEaacbaaAabeAaEcAgAcAg
AjBwBoAlAjAqAjAeAgAeAbAbAaAaDaAa=BE7aAaFaBaCaEaVabAabbbAabAbGaAbAdAbCgAeAcAcAdAbAaBaa=C26aAbAc
AbAaCcAaEaLabdfffahAeeeeaaaBaaAaBaBadaAacaaEaaBaAaddbdhhhafdeaaaabAaIaJabaDaBaAbaaaaAabCaBacbd
adcdbbFcGaDaDa=CCBaCaZbAabaAaaAaaHcAdAdAbAhAbAeAbAbAbCbAbDaBaBaBcAaAcEaAaCaHa=D28aGaNaKbCcAaCd
AgAdAdAaAeBbaAb=D52bEaEaNaAaababIbAbAbaabaFaAdAcAdAgAcAeAhAaAdCaAaAaAbAaAa=D97bCaAaCaQaBbaccba
bAaAaaCaaBabKccccdbaAbaBaGaaEaAaBaAaLaAaFbAbacabaAaAaaaBdCaAbAbAdAeAbAfAeAcAeAbAaAaAbAb=E25aCb
AaAbCbAaGaKaAeAeAcAfAcAhAdAhAfAaAbAbAbAbCaCa=E4CcAaAaAbEbAaUaBaAbAa9aOaBaAaaababNaCbAaAbAaDa=E
94aBbAaaPcAaBaaaCaGbCaFaEbabAcaAaBaaBaDaAaCaAaKaEaBaaaDbFaaCaCaBfBaBaDaAaAcHaBaaAbAaAaaAa3aDaB
a3bDb3aAabAcAcAaDa=F3Aa=F5EaHeLa"),
   (0x30000, "
BadccaaaddAcbbaAaAaBaaaaAaabEaIaCbBaFcFaadgdcecaaAaaaaDaCbEaaaBaCaaaBaDabBaIabgftjhkhcfgddebCa
FaAaaBaabbAbBaFaAcbAaHcAaabaAaHaBbCbAaBbDaAbBaBaDbAaAcbcaccccbaAbNaGaBaAbaBabFbcedegddAceaacDa
FacbAbcaabaBaBaCaDbAbBaGaBaCaFaBbaAaDaEaaBaCbabcabbbAabBabDaEacBbBaCaAaAbaaaAbCaaCabaAbeAgabBb
AaFaCaBaIafdcbAbbaaDaBabdfpmnrnjfhgecdbaKbbBaAaaaFabAgfiiAjllmlgbfbbAaaAaCaBaBabCaHaJaMaCbabaa
aGaabcbbdebbabCaDaabcagbfcfabcEaGbecbacbaaAaAaAaDabcbccehjcbcaaAaBaaOaaEbAaAaAaGaHaaaIaBbbcdcb
aacaBaIaEadfkfdeAcddbaccEaHbCaaFacaAaDaAaGaaFaabbbaAcaaaaDaCaaaAbbcAbAaDbCaGaAbbbcbacbAaaCaTba
BbDaKacBaaFbbbccAaaDaaIaAbGaaabAaJaAaAbdbaaAaAaFabdijhkilificddbcKbcaaacabbLaBaaHebnktokmmgdie
babbaIaBaAaFaAcaabdbabbbAaaHaCaCaWbCaaaabAaCaDaacbaaKaGbadghfiefjddccAcaaAaHbAaCaDaDaabAbaabaA
aHcaddkjimAoAonhcgAdFaEbaAbcdbaAaJabcdfadebbbBaaEaBbbCaDaHcAbaaAaTaAaFaddbffchcaAbaBaDaBaaBaAa
AbbbaaGbaAeflmroylrnhijdbabFaDafdgwnmmiijgfdfaBaIaabadbAaaDbFbBaJcaabaCa=630aFaJbcAaaIaAabaDaA
abdgaababaaJbcgeekcadbBacAaIbAecfdddbcebAbbaaEaBaAabDaAaGaCbbNbAaaHaaaaAaHabaGacafgeaabcbgAaaa
DaaCaAaHgbbceedcdcaaAaGaBbaaAaaDaAbAacacCaHaBdecdabGcaAdAbacccAaaAaaCaCaedhehkcfdbcbaaaDaAaAaa
aAaKaaAbaAabaceAaGahfijefhhhAaaAbJdbcjdfdcbaaAbaaCaEaGaabfddcadcdbAbbaaHaeaeccbbbcBaHbabBdAbFa
CbdfcdfjeccbbeAaBaaFadfegaddefcAbAaIaAbAdAdAcAdAeAbAaAbAbEcAbAaFa=854aCeAjAjAiAlAfAdAbAeAcAaAb
LbEaBaaBaGaacbcAcaFaDaAaAaBabJaBcaaaaAaFaAaAbAaCaGaAbBaEbHaDadcFaFaBaGaddkkhfjlkhjccdcAaBaaDaa
aaAbHaAaaEaWbaBaAaMcaeaaAaaFaIaaAaacaAaHaEaAbAaaAaaEdchglqnngdgkAbgcbaCaJccbdcaEaDaaheAbekdheb
dcaaAaJaaCaJacaCaEaAagbfbAccDaBaIaAaDaIcCaAaCaEa=A3BbCcCaAaAaAaAaGaAaaAbAbDaHabCaAbAlAcAbAeAbA
aAcCa=A6AaAbAfAoAeAiAiCgAdAeAcAcEaGaBbaAabHaBabaaaAaabaBaFbBaBcdaBaDaPaAaAiAdAeAaAcAaAcAdAgCcA
aDb=ADAcAaAaEcAbAcCaAaAaBaIaGaBaaAbcAbacaaaGaccAhdfnbaeccbBaAaFacBceaAaIbCbAaAdAaAaAhAdAdAaAdA
aAaAbCaaCa=B47aAbAdAfAhAcAbAiAdAbAbAeAbAaAcKaaAaAaaAaaAaDaFaebAadchceddeBaAaEbBbfbacebecaaaabD
aBaabAccbacbAaaHaGaBaDdaJbAcAcAfAhBfBgAbAbAgAaAdAaLaCa=BE5bAeAiAmAlBnBhAsAiAcAkAdAaAcAbAaAaAaJ
aaBacaaab8aNaAdAbAaAaCcAaIa=C24aAaAaAdAbAaAbAcAcAbAbAbAbAbHbceffjibAefdadcAbIacaDaaaaAbBaCaBbA
gecAaBadaEaaDaDbNaJaGaaabaacbAaCaEaAaAaCa6aAbAcaCaEaaEaDaCaCbAbLbCbAbEcCaCaDa=CFCaAaAaAfAdAdAc
AfAaAaNaBcDcAdBcBaAcCbCaBab=D1CaAaBbBcAaAbBaDaAaXcAaCcAbAbCcAaAa=D4CaAcAcAdCdAeAaCbBbBaIaaBaHa
BaCaIaCaAeAeAfAaAeAeAdAcAbAbAc=D8FdAcAfAjAgAbAdAfAdAbGaMcAcCaEcaAcbEbIaAbAcaaaCaKaBaJcAaCbAaab
CaAaAbAbabbDbDaBaAaAdAcAaAfAbAeAcAbAcAaAaAdAaAaAaAb=E1FaAaAaAjAkAgAiAmAgAfAcAdAaAbAaAcIaCbAfAb
AeAdAcAeAaAdAeAaAaAb=E46aAbAcAhAnAqAlAoAjAgAfAdAgAaAbAaAaGaAaAaa7aFaFaAaHbCbCaMa9bcAaAffcAeAhA
bAcbAbFaaaFaAaaJaKaAbCaaRbAa6eAaAbBabBaKaaEaFaCbEaDbAaabKaaaIcAaEaEcBbAaAaAaAaAa=F36aAaAeBdBbB
cBaBdSaaCa=F59aCaLacAaAaCaa"),
   (0x31350, "
EaaaeAfbbcabaaBaAaBaAdAcaaBaEaIbAaaaBaBaaEaabbaadAbaaBaJaGaAbBbaGaDaIaehccehdfghdcababaAaCaGbc
aAcaaaAaEaCaJaBaCbDbEabGaJaCaFabaacAacaa=114abBaaJdbbbeAabaAaAaAbFaaAeAacaCbaMaabAadAaaaFaEaHa
aGaaEaAaaaDaBaCbbaAaJaBaIaEaaAaFaAaBcDaGaDabAbcAaAacaCaAbcacaaaFaAafierwytzsz1brnjhecdcdIaadbc
bAaHacglmnAspojpghbcbaaaabKaaBaFaJaAaIaGaaAaaBaAaDbaaeAcAcAaaAaBbBabcdcffccgfbAbBbaCaDacaaabaa
BbAaGaaaabdbbabbeDaBaGabaEbIaaaBbAaaAbBaJaCbCabbbcaaaaabBbEaCaEbakilifjAdhccAaBaEaLaJabaAaBaaG
aaaDbAabdddabcAacaIaAaCbbRbaAaAcdBaaCaEaBaBaIaFaaaAaRcaAaaPaaCaKbAabBaAbAaAbbAaAdcaBbDbDbdfiff
mreeldbaaFaAaGaAbbCaIaAaAbAbAaEdAicnnkihhefhbacbaAbIaMaebAaDaFaCacHaLaIbaaaAaBaaEaAbAcCaaPaAcb
dffjhdhcbAbBaLaAaAaJaaAaDaEbCaafglloiAkAgmjfebbDaCaHbaCaGaAbaabaAabAaaaAbFaaaAacbCbGaAaEaCaBaE
aAaBaObbBbaaAbKbKaaCaAaCbbjitwxz1lz1cz1az1bz1dpkmgdcddaAbFcehlikoonrhfgdcbabAbaCaAababAdbeAaaa
aaJaGaaBbaAacCaBaAa=634aaKaAaaAcAaaaDaAaAbaBaaDacbEaaaaHbdccijgiddbbAaaBbBaEdcddhcogfkhdcaaJaA
aHaEacaBababCaaAaEaJaAabCaAaEbabaaCaaAhbfbbcbaaAcaBaDaBaAaGbbecbaedbddbcAbaBaEaAbBbBaCaaFbDaEa
aAbbBaAaAaAaaaBcbcDebdBbAabEbafefffbbbaffbbAaHaAaQbbaaaAcaGakehkllidfbfcbCaaGaaehgefbceccaAaFa
DaaDabceeghdbeccaBaAaaDabcgfhdddAbabcbAaaDaabbcaBaHaaeahbmifidbdaaAaaHaabdifcgfddccaDaCaAaCbAb
AdAbAdAcAbAgAcAbAbAaAa=854cAaAaAfAbAgAcAdCbAaAaAaAaIaDaCaAaKceAcceAaCaHbAaBcbAaAbCaaaFbaabdbaa
CaaBbAbAaAabCaBaAaHaCaaBaaEaaAbAbbNaDaAaaaaddAfafccbbaaBaDaTaHaBaaaHaBbAaFaEaHaFaHaDabAbAaAcca
aaBaaBbHaGaCaejmefmnmihAggceebAbbAaHaAbBcaAaBaaCaacbAcfgmegdabbaabaaHaAaAbHbaAaAbAaAbEbaabeedc
ddbbCbGaAaaBaaOaIaIa=A39cAaAbEbAaRbAbDaCaAaEdAbCcCdAdAbAbAdAaAcAaAaEb=A6CbAbAbAcAcAbAcCbCbCaPb
DbaHaCaBaaQaCaAaFbBaDaGbAcAcCbAbAbIaaAaCa=ADAaAcAdEbAbAaVaCaDaaAaabaaaaaHabccjdekfebbdcAcaaaCa
BdaccdbcAacaBaBaGaAaAbCcAaCcEaCa=B4DbEaWaBaCbAaBaDaCaEadcAdcegfbfleAbaabcAaEaBbcbbaacabcCaDcbA
ccbceaacaKaIaAaEaaHcAbAdAbBbBbAiAdAeAbCdAa=BE7dAfAbAdBdBjAgAcAdAdAbEbCaVaa=C14aCaNaAaAbAaAaAbA
aAbAd=C2AdCdAcAaAcAbAaCaAaIbcbccfbAdBaaAaAaaGaaaaaAbaCaGaAbbcaiAbdbabdBbaaHaBaaBaIaKaIaaaaBaCa
AaGaHb7aRaLaAaaNcAbAaAcAbAbAaAa=CFCaCbCbCcAaCaAaHaKaDaAbFbAaaa=D1EbBaFa=D44a3aHaCbAbAaAaAcAaAa
CaCa=D4EaAbAaCbAaAcAaVaJabAaCaJbAbAaAbCcAbAbAbAa=D8DaEaCaAcGbSaaaAaaAaAcBaAaCaEbGaBacbBaaCaOaA
aaYbAaeAaCaKbAaAaAcAcAbCdCbCaCaAa=E21aAbAcAbAdAcAaAbCaAaSaAbAbCdCaAaAaAaAaCbEa=E4AbAbAdAdAfAcA
aAbAbAbAaAaCaMaPaCaBaBaEaNa6bEaIaEa=ED3aGb=EF7aIbaJaCaAaaNa=F3FaBaGc=F38aDaEaIaDaJaDaHaIa"),
   (0x2EBF0, "
Da=029aIa=075aJacbbBccBa=0B1a=0E0aDaHaGaaNaAaCaYaVaAa=18DaEa=1C0aFa=1E4aQaCaaHaNaLaAabAebAacad
aaaJaBbSa=27AaAaAaNaadbecfdbeaCbDaGaDaLaaJa=2E6aAaXa=326cabccEab=36Ba=3DDaAca=400aPbaBaBaKacab
aabbWba=462aBaBaa=48AaaaQaBa=4D4bVbbadaaaca=517a=911a=52BcacabcCabBaAaSaUa=580a=5ACaa=5D7aaAba
ceAdbcAaPcfbdbdebbAb=65CaaCaQaaDaPdefiggcceeaaabJaVa=6ECaCbbaDa=735a=76EaaCb=7A9acAfAadSbabBbC
aWaAaaaa=810aaAaaBbIaAbbaccaBaEaObBb=863a=856aCbCaEd=88Fa=8B7aBbcEa=8F2abbZb=935a=980aaEaAa=9A
6acAcAdccbfbaAabRaOaAbBa=A10aaAaAaGa=A3Da=A70cEbGa=AA1a=AD6aGaCbEaUa=B1FaTabSaCbAaAaCaAaAa=B88
aAbAababaPbBaab=BDAaOaCaBcHa=BE7bAgAfAeBgBdAeAdAdAbEaSaXaCaCaUaaBa=C75aAaZa=CB6aXaDaUabPaIaAcE
bYaIaMaLaFa=D81aNa2aAbAaAaAbAcCbAaAb=DFDaOaWa=E4CaAaEbCaAbGaAa=F63a"),
   (0x323B0, "
CbaDaabaaDaEaCaAaaCaPabaCabEaachifedefcccAbHaGaBcAaaaaaaBaDbbaBaaaFbabfcihmfgeedfdbaAaCaaEaAba
aabaaAcAaHaCbaCaBaEbAaDaFbCaFaAbDaIaAaadbbabAaAaaaAaCaKaFaAaFaaDaabdccaaaeccaAaJbaaabcCabAaAaF
aaAaDadaOaHaQcAbbbbbAaaGaGaAbEbDaAbcaAaaKabAaaAaBaEaGaEaaGbBacaBaEabghlpz1byozwwpquldeccabaaaA
aAaaabbbabAaAaaAbBacdjehAplgphkgcfcabaIaIaSaGabaaaaaaBbCaAaCaAaabababaAbLdAdjfffceaAdDaDaAaAaa
aaAbbbaHbaaaaaeacAbaAaBbBaHaAaAbAaBbaGaAbadAaBaTaBbbaAbbacAaAaaNaaegjdnfAckfedgcBaLaAaIabAaabb
AaaIaaBabCaAaAbcabbIaaAaCbMaBaCcbAbaaAcbaaAaCaCaBaEaaaIaYaGaBaMaBaEaHaAaEaaaaAaaaabcaaAaaFdcie
hggfjncfccbabKaabaaBaAaKaaaHafhgjcknproileeaaAaAaaFbaCaLaaAaAaaGaAcaaBbAaBaFaAaCaMaaaKaBbaAbaa
EaBbCaCabfaefghgggccaCaaCaAaEaBaaCaBaAaabadAbaacabbBaCabaefhhnAhAjnlmdbhabaaabBaDaAaaAaBaBaHaA
aDaaCbAaFbBcFaBbDbBaXaHbabaadaabaUadacaecbabAcbAbccfblhkoimhikfgkgcdAbbbAaDbacdejjifejqgfecAab
aaaBaEaAbEaCaBbAaaBaHaAaaCaAbIaaCbaBaaDbaAbbAaDacaaAcbacAaCaDbadiekklndjchfcaabaAcBaDbaAbefefj
hdbbdBaBaCaDaAaIaaAbbbBbaaRbAaBcdbcDaEaHabAbbaccbAcAdBaaBaJbEabefbecdedbbCaaAaDaHaFaaaaaMbaaaa
AaabFaaAaAaabAbDaAaDaAdbadeaAcbeAdbBaAaKaAaDaFaAaAaAaBaBbabAhfeghjhdjdebdBbabaaEaAbagdadbdcaaF
aDaCaFdceBbcbabbaHaCabAbaKaAabbAbbAaAaAaBaDbbcbeeelffbbfcAaaAaAaAaAadfccdcdfabfacabaBaFbAaAbAi
AgAgAbAgAfAfAgAcAeAaAbCba=858bGa=87DabBbAabbaIaAaAaaBaaBaJabeabaFaCabaAaaadAaabBaIaGaAaIaBaaaF
aAaAbabdbadbcacaFaHbcchcgfhfgbaaBdbMaAaEaCaOaBbDaBaEaaaLbaAabaAaAaDaJacaAbcAdbEaJaDbaFbcakgogj
jrnAohfjbcAcEaCaBaCbAbaAaBaBaccdAljqjntqidedaabaGbDaAaGbbcBcabdaaAbAaAcaaeffbeAaaaaDaGbDaEaCaA
bGaAaGbIbaaCbbAbbHaAbAcAaCaAeAbAbAaAaAaGa=A70aAa=A93aDaDabDaDbHaHaAaMaaAaAbAbaDaCbAaAdAaAbAaAc
AbAcEbbAaAa=ADCaIaTabCaAbCaaabAbabAdababIdeccacdcddbbbbHacAcbdabaFaKcAaAaAbAbCcAcLa=B4Da=B72aE
aEaHabAcbcbcaefcdaaaaAaaAdCaBabAaaabbaKbdbbAbdAbAaaDaAaCaAaaGaAaaaaaEaCcAfAcAeBlBmAmApArAfAfAc
AgAaAcAaAaBaAab=BE9aAaDaBbAaAaAbAaAb=C1AaaKaAaAaAbAeAaAbAcAeAaCcEa=C2AbAaAaAbEaAaEaFaAaabAcdab
AecbbaAaabIaCaAbaAaCaEabhbgfbhhibdccccbccabaAaEabGaAaDaHaLbaaccBbaaSaUabbAaaBaMaAaAaCdAaCcAa=D
06aTbDaBaAaAaBeHb=D28aBaIaBaKaLcAcAfAaAdAaAbAaBa=D4EbEcEcAaAaBaaNabBabaBaAaCbAaaBaAaGaAaAcAcAc
AaCaAaAaCaGaa=D8DaCbQaQaCbCbGaBaAbLaBbcBacBaaRaWfabcacaacAaKbAdAdAiAfAkAhAkAdAdAcAeAbAc=E21aCc
AaAaAcAcAbAcAbIaaLeAeAhAdApAkAhAfAjAhAdAbCc=E48aAaAcAbAcAbAbAcAaCdAaOaDaAaCaBa9aCaAaHccfgeddeF
aFaCaGa=EC1aBaBaHcDaBbFaGaRaFaKaaAdbbfAaKaAaKaIaBaBbLa=F36aFaBaHa6aRaCaDaCa4aa7a")]

/-- Reads how code points are spread over groups, from a code point and a group on. -/
def groupSpans : (code group : Nat) → List Char → List (Span Nat)
  | _, _, [] => []
  | code, _, '=' :: a :: b :: c :: rest =>
    groupSpans code (hexNumber (String.ofList [a, b, c])) rest
  | code, group, c :: rest =>
    if c = '.' then groupSpans (code + 1) group rest
    else if c.isLower then
      let count := c.toNat - 'a'.toNat + 1
      ⟨code, code + count - 1, group⟩ :: groupSpans (code + count) (group + 1) rest
    else if c.isUpper then groupSpans code (group + (c.toNat - 'A'.toNat + 1)) rest
    else groupSpans code (group - (c.toNat - '0'.toNat)) rest

/-- The ideographs, with the place of their group and block: five hexadecimal digits are left for
the code point, the one before them is the block, and those in front are the group. -/
def ideographSpans : Array (Span Nat) :=
  let spans := ideographBlocks.zipIdx.flatMap fun ((first, text), block) =>
    (groupSpans first 0 (text.toList.filter (!·.isWhitespace))).map fun span =>
      { span with value := span.value * 0x1000000 + block * 0x100000 }
  (spans.mergeSort fun s t => s.first ≤ t.first).toArray

/-- The place of an ideograph. -/
def ideographPlace? (c : Char) : Option Nat :=
  (Span.find? ideographSpans c.toNat).map fun span => span.value + c.toNat

end Depot.Text.Collation

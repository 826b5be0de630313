import Depot.Text.Collation.Element
import Depot.Text.Collation.Ideographs
import Depot.Text.Lowercase
/-!
# Weights

What each character weighs in the order of texts. Signs come first: blanks,
punctuation, symbols and currencies; then digits, and then the letters of one
script after the other. Ideographs come behind them, and characters that no table
names come last, in the order of their code points.
-/
namespace Depot.Text.Collation

/-- The signs of ASCII and their places among all signs. -/
def signs : List (Char × Nat) :=
  [('\t', 0x3), ('\n', 0x4), ('\x0B', 0x5), ('\x0C', 0x6), ('\r', 0x7), (' ', 0xB), ('_', 0xE),
   ('-', 0x10), (',', 0x28), (';', 0x3F), (':', 0x45), ('!', 0x6C), ('?', 0x73), ('.', 0x85),
   ('\x27', 0x13B), ('\x22', 0x13E), ('(', 0x141), (')', 0x142), ('[', 0x143), (']', 0x144),
   ('\x7B', 0x145), ('\x7D', 0x146), ('@', 0x1C1), ('*', 0x1C2), ('/', 0x1C7), ('\\', 0x1C8),
   ('&', 0x1CA), ('#', 0x1CD), ('%', 0x1CE), ('\x60', 0x2E5), ('^', 0x2E8), ('+', 0x4DA),
   ('<', 0x4DF), ('=', 0x4E0), ('>', 0x4E1), ('|', 0x4E3), ('~', 0x4E5), ('$', 0x1FB6)]

/-- The places of the letters from `a` to `z`. -/
def letters : List Nat :=
  [0x21F3, 0x2201, 0x220C, 0x2216, 0x2224, 0x223B, 0x2244, 0x2253, 0x225F, 0x226C, 0x2273,
   0x227E, 0x229A, 0x22A3, 0x22B5, 0x22D3, 0x22DF, 0x22E6, 0x2307, 0x231D, 0x232B, 0x2343,
   0x234C, 0x2350, 0x2359, 0x2360]

/-- The place of the digit 0; the others follow. -/
def zero : Nat := 0x1FEC

/-- The weight of a character of ASCII; control characters have none. -/
def asciiElements (c : Char) : List Element :=
  if c.isDigit then [⟨zero + (c.toNat - '0'.toNat), 0x20, 2⟩]
  else if c.isAlpha then
    let place := letters.getD (c.toLower.toNat - 'a'.toNat) 0
    [⟨place, 0x20, if c.isUpper then 8 else 2⟩]
  else (signs.lookup c).toList.map fun place => ⟨place, 0x20, 2⟩

/-- The weights of other characters. Along a span the place moves; a mark, which has none, moves in
its second weight. Capitals whose small letter is in the table are left out. -/
def weightTable : String := "
80-84= 85=8 86-9F= A1=6D A2=1FB5 A3=1FB7 A4=1FB4 A5=1FB8 A6=4E4 A7=1BB A8=2EC A9=446 AB=13F AC=4E2
AD= AE=448 AF=2E9 B0=368 B1=4DC B4=2E6 B6=1BD B7=9A B8=2EF BB=140 BF=74 C6=21F3/21/8+2224//A
D7=4DE DF=2307/21+2307//4 E6=21F3/21+2224//4 F0=2216/21 F7=4DD F8=22B5+/3B FE=2372 111=2216+/45
127=2253+/45 131=2260 138=22E5 13F=227E//8+/12B/4 140=227E+/12B/4 142=227E+/45 14B=22B1
152=22B5/21/8+2224//A 153=22B5/21+2224//4 167=231F 17F=2307/24 180=2203 183=220A 185=2386 188=2212
18C=2220 18D=2360//4+234C//4 192=2241 195=2255 199=2276 19A=2283 19B=2297 19E=22A9 1A3=2252
1A5=22D9 1A8=2384 1AA=2318 1AB=2322 1AD=2323 1B4=235C 1B6=2362 1B9=236D 1BA=2370 1BB=2380 1BD=2385
1BE=231D//4+2307//4 1BF=2376 1C0-1C3=239B 1DD=222C 1E5=224A 21D=235F 221=2221 223=22D1 225=2365
234=2291 235=22AE 236=2327 237=226D 238=2216//4+2201//4 239=22DF//4+22D3//4 23C=220E 23F=2310
240=2368 242=2388 247=2228 249=226F 24B=22E4 24D=22EB 24F=235B 250-251=21FB 252=21FF 253=2209
254=22C3 255=2213 256-257=221C 258=2232 259=222E 25A=2233 25B=2230 25C=2234 25D-25E=2237 25F=2271
260=224C 261=2246 262=2249 263=2251 264=223A 265=233A 266=2257 267=225C 268=2265 269=226A 26A=2261
26B=2285 26C=2288 26D=228D 26E=2293 26F=233D 270=2340 271=229E 272=22A8 273=22AC 274=22A4 275=22CD
276=22B9 277=22CF 278=22DD 279=22ED 27A=22EF 27B=22F1 27C-27D=22F4 27E=22F8 27F=22FB 280=22E8
281=2301 282=230D 283=2314 284=2272 285-286=2319 287=2329 288=2324 289=2333 28A=2341 28B=2347
28C=234B 28D=234F 28E=2298 28F=235A 290-291=2366 292=236B 293=2371 294=2387 295=2390 296=2399
297=23A0 298=23A2 299=2202 29A=2239 29B=224D 29C=2254 29D=2270 29E=227C 29F=227F 2A0=22E3
2A1-2A2=2397 2A3=2216//4+2360//4 2A4=2216//4+236B//4 2A5=2216//4+2367//4 2A6=231D//4+2307//4
2A7=231D//4+2314//4 2A8=231D//4+2213//4 2A9=223B//4+22B1//4 2AA=227E//4+2307//4
2AB=227E//4+2360//4 2AC-2AD=23A3 2AE-2AF=233B 2B9=2F6 2BA=2F8 2BB=225D 2BC=238A 2BD=225E 2BE=238C
2BF=2392 2C0=2389 2C1=2393 2C2-2CF=2F9 2D0-2D1=1F95 2D2-2D5=307 2D6-2D7=30D 2D8-2D9=2EA 2DA=2ED
2DB=2F0 2DC=2E7 2DD=2EE 2DE-2DF=30F 2E5-2ED=311 2EE=238B 2EF-2FF=31A 300=/31 301=/30 302=/33
303=/39 304=/3E 305=/46 306=/32 307=/3A 308=/37 309=/47 30A=/35 30B=/38 30C=/34 30D=/3F 30E=/3F
30F-311=/48 312=/3F 313-314=/2E 315-316=/3F 317=/40 318=/40 319=/40 31A=/3F 31B=/4B 31C=/40
31D=/40 31E=/40 31F=/40 320=/40 321-326=/4C 327=/3C 328=/3D/1 329=/40 32A=/40 32B=/40 32C=/40
32D-32E=/52 32F=/40 330-331=/54 332=/2D 333=/40 334=/56 335=/45 336=/41 337=/41 338=/3B 339=/57
33A=/40 33B=/40 33C=/40 33D=/3F 33E=/3F 33F=/3F 342=/36 345=/58 346-347=/3F 348=/40 349=/40
34A=/3F 34B=/3F 34C-34D=/3F 34E=/40 34F= 350=/3F 351=/3F 352-353=/3F 354=/40 355=/40 356=/40
357=/3F 358=/59 359=/40 35A=/40 35B-35C=/3F 35D=/3F 35E-35F=/3F 360-361=/5A 362=/40 363=21F3//4
364=2224//4 365=225F//4 366=22B5//4 367=232B//4 368=220C//4 369=2216//4 36A=2253//4 36B=229A//4
36C=22E6//4 36D=231D//4 36E=2343//4 36F=2350//4 371=23B0 373=23D1 375=2F7 377=23AD 37A=23B3//4
37B=23C6 37C=23C5 37D=23C7 384=2E6 3B1-3B3=23A6 3B4-3B5=23AA 3B6=23AF 3B7-3B9=23B1 3BA-3BB=23B5
3BC-3C0=23B8 3C1=23C1 3C2=23C4//19 3C3=23C4 3C4-3C8=23C8 3C9=23CE 3CF=23B5//A+23A6//4+23B3//4
3D7=23B5//4+23A6//4+23B3//4 3D9=23C0 3DB=23AE 3DD=23AC 3DF=23BF 3E1=23D0 3E3=23F3 3E5=23F8
3E7=23F9 3E9=23FC 3EB=2403 3ED=2406 3EF=240A 3F3=23B4 3F6=4D5 3F8=23D2 3FB=23BE 3FC=23C3 430=2411
431-433=2414 434=241B 435=2422 436=2424 437=2428 438=2433 43A=243A 43B=2442 43C=244C 43D=244F
43E=2458 43F=245A 440=245E 441=2461 442=2464 443=246B 444-445=2470 446=247D 447=2482 448=248C
449=248E 44A=2492 44B-44C=2494 44D-44E=2499 44F=249D 452=241E 454=2423 455=242D 456=2435 458=2438
459=2448 45A=2456 45B=246A 45F=248B 461=2478 463=2497 465=249F 467=24A0 469=24A4 46B=24A2 46D=24A6
46F=24A7 471=24A8 473=24A9 475=24AA 479=246F 47B=247C 47D=247B 47F=2479 481=245D 482=369 483=/5C
484=/3F 485=/2F 486=/2E 487=/3F 488-489= 48B=2434 48D=2496 48F=245F 491=2416/21 493=2417 495=2419
497=2427 499=2421 49B=243B 49D=243F 49F=243E 4A1=243D 4A3=2452 4A5=2455 4A7=245C 4A9=24AC 4AB=2463
4AD=2468 4AF=246C 4B1=246D 4B3=2474 4B5=2480 4B7=2485 4B9=2487 4BB=2475 4BD=2489 4BF=248A 4C4=243C
4C6=2444 4C8=2453 4CA=2451 4CC=2486 4CE=244D 4CF=24AE 4D5=2413 4D9=2412 4E1=242F 4E9=2459 4F7=241A
4FB=2418 4FD=2472 4FF=2473 501=241C 503=2420 505=242A 507=2431 509=244A 50B=2457 50D=2462 50F=2467
511=242B 513=2446 515=244B 517=2460 519=249E 51B=2441 51D=24AD 51F=2440 521=2447 523=2454 525=245B
527=2476 529=2450 52B=2425 52D=2483 52F=2445 559=2587 55A-55B=205 55C=6F 55D=2F 55E=77 55F=207
560=2560 561=255F 562-575=2561 576-586=2576 588=2575 589=46 58A=11 58D-58E=36A 58F=1FB9 591-5AF=
5B0-5B9=/5E 5BA-5BB=/67 5BC=/6B 5BD= 5BE=208 5BF=/6C 5C0=209 5C1=/6A 5C2=/69 5C3=20A 5C4-5C5=
5C6=20B 5C7=/66 5D0-5D9=2589 5DA=2593//19 5DB-5DC=2593 5DD=2595//19 5DE=2595 5DF=2596//19
5E0-5E2=2596 5E3=2599//19 5E4=2599 5E5=259A//19 5E6-5EA=259A 5EF=2592//4+258D//4+258E//4+258D//4
5F0=258E//4+258E//4 5F1=258E//4+2592//4 5F2=2592//4+2592//4 5F3=13B/2A 5F4=13E/2C 600-605= 606=4F3
607=4F5 608=36C 609=1D1 60A=1D3 60B=1FBA 60C-60D=30 60E-60F=36F 610-61A= 61B=40 61C= 61D=DC 61E=47
61F=78 620=26BA 621=25D2 627=25E0//1 628=25E2 629-62B=25F2 62C=25FD 62D-62E=2608 62F-630=2613
631-632=2623 633-634=2636 635-636=2641 637-638=2647 639-63A=264E 63B=267D 63C=267F 63D-63F=26B7
640= 641=2657 642=2663 643=266A 644=2683 645=268B 646=268F 647=269B 648=26A1 649-64A=26AF 64B=/79
64C=/7C 64D=/7F 64E=/82 64F=/86 650=/89 651-655=/8C 656-658=/92 659-65E=/96 65F=/91 660-669=1FEC
66A=1CF 66B-66C=32 66D=1C5 66E=25E1 66F=2662 670=/A4 671=25D6 672=25D5 673=25D9 674=25D2//4
675=25D2//4+25E0 676=25D2//4+26A1//4 677=25D2//4+26A5//4 678=25D2//4+26B0//4 679-67A=25F5 67B=25E3
67C-67D=25F7 67E=25E4 67F=25F9 680=25E5 681-682=260A 683-684=25FE 685=260C 686=2601 687=2603
688-68D=2615 68E-690=261C 691-699=2625 69A-69C=2638 69D=2643 69E=2645 69F=2649 6A0=2650
6A1-6A2=2658 6A3-6A4=265B 6A5-6A6=265E 6A7=2664 6A8=2666 6A9-6AC=266B 6AD-6AE=2670 6AF=2674
6B0-6B4=2677 6B5-6B8=2684 6B9=2696 6BA=2690 6BB-6BC=2692 6BD=2695 6BE=269C 6BF=2602 6C1=269D
6C3=269E 6C4-6CB=26A2 6CC-6CE=26B1 6CF=26AB 6D0-6D1=26B4 6D2=26BF 6D4=87 6D5=26A0 6D6-6DD= 6DE=371
6DF-6E4= 6E5=26A1//4 6E6=26B0//4 6E7-6E8= 6E9=372 6EA-6ED= 6EE=261F 6EF=262E 6F0-6F9=1FEC 6FA=263B
6FB=2646 6FC=2652 6FD=25D2/21 6FE=268B/21 6FF=269F 700=DE 701-702=88 703-708=48 709=79 70A-70D=20C
70F= 710=26C4 711=/A6 712-713=26C5 714=26C6/21 715=26C8 716=26C7 717-719=26C9 71A-71B=26CD
71C=26CE/21 71D-71F=26CF 720-723=26D3 724=26D6//19 725-726=26D7 727=26D8/21 728-72C=26DA
72D=26C5/21 72E=26C6/27 72F=26C8/21 730-73F=/A7 740= 741-742=/3F 743-744= 745-746=/3F 747-74A=
74D=26CC 74E=26D2 74F=26D9 750-755=25E6 756=25ED 757-758=260D 759-75A=2621 75B=262F 75C=263C
75D-75F=2653 760-761=2660 762=267C 763-764=2680 765-766=268C 767-769=2697 76A=2688 76B-76C=2630
76D=263D 76E-76F=260F 770=263E 771=2632 772=2611 773-774=25DA 775-777=26BB 778-779=26AC
77A-77B=26C0 77C=2612 77D-77E=263F 77F=266F 780=2705 781-783=2708 784-787=270C 788=2712
789-78B=2714 78C=2718 78D-78E=271C 78F-790=271F 791-797=2724 798=2719 799-79A=2706 79B=2717
79C=270B 79D-79F=2721 7A0-7A1=271A 7A2-7A3=2710 7A4=271E 7A5=2713 7A6-7B0=272C 7B1=272B
7C0-7C9=1FEC 7CA-7E7=2738 7E8-7E9=2744/21 7EA=2747/21 7EB-7F3=/B7 7F4-7F5=2756 7F6=3BA 7F7=DF
7F8=34 7F9=70 7FA= 7FD=/40 7FE-7FF=1FBB 800-817=25B7 818-819=/76 81A-81B=25CF 81C=/6E 81D-81E=/6E
81F=/6F 820-821=/6F 822=/70 823-824=/70 825-826=/71 827-828=/72 829=/73 82A-82C=/73 82D=/78
830-83E=4E 840-858=26EB 859=/40 85A=/40 85B=/40 85E=210 860-86A=26DF 870=25E0 871=25E0 872=25E0
873=25E0 874=25E0 875=25E0 876=25E0 877=25E0 878=25E0 879=25E0 87A=25E0 87B=25E0 87C=25E0 87D=25E0
87E=25E0 87F=25E0 880=25E0 881=25E0 882=25E0 883=25D2//4 884=26A1//4 885=26B0//4 886=26B0//4
887=25D2//4 888=3A8 889=269A 88A=2600 88B-88C=264B 88D=267E 88E=26C2 88F=2694 890-891= 897=/8E/3
898-89D= 89E=/8E 89F=/8E 8A0=25EC 8A1=25EF 8A2=2604 8A3=264A 8A4=265D 8A5=2668 8A6=2689 8A7=268E
8A8-8A9=25DD 8AA=2633 8AB=26AE 8AC-8AD=25DF 8AE=261B 8AF=2644 8B0=2675 8B1=26AA 8B2=2634 8B3=2656
8B4=2672 8B5=2669 8B6-8B7=25F0 8B8=25FA 8B9=2635 8BA=26BE 8BB=265A 8BC=2665 8BD=2691 8BE=25EE
8BF-8C0=25FB 8C1=2605 8C2=2682 8C3=2651 8C4=2667 8C5-8C6=2606 8C7=268A 8C8=2676 8C9=26B1//3
8CA-8E2= 8E3=/9C 8E4=/83 8E5=/87 8E6=/8A 8E7=/7B 8E8=/7E 8E9=/81 8EA-8EF= 8F0=/7A 8F1=/7D 8F2=/80
8F3= 8F4-8F5=/84 8F6=/8B 8F7-8F8=/9D 8F9-8FA=/A2 8FB-8FC=/A0 8FD=/9F 8FE=/88 8FF=/95 900=/D0
901-903=/D0 904-906=2978 907-90B=2980 90C=2986 90D-910=2988 911-917=298D 918-91C=2995 91D-920=299C
921=29A1 922-928=29A3 92A-92C=29AA 92D-92F=29AE 930=29B2 932-933=29B3 935-939=29B5 93A-93B=29C2
93C=/CF 93D=29BA 93E=29C1 93F-944=29C7 945=29CF 946-947=29D1 948=29D4 949-94D=29D6 94E=29D3
94F=29C4 950=2975 951-952= 953=/31 954=/30 955=29D0 956-957=29C5 960=2985 961=2987 962-963=29CD
964-965=9D 966-96F=1FEC 970=21F 971=1F97 972=2977 973-977=297B 978=29A0 979=299A 97A=29B1 97B=2994
97C=299B 97D=29BB 97E=29A2 97F=29AD 980=29DC 981-983=/D0 985-98B=29DD 98C=29E5 98F-990=29E7
993-9A8=29E9 9AA-9B0=29FF 9B2=2A07 9B6-9B9=2A09 9BC=/CF 9BD-9C4=2A0D 9C7-9C8=2A17 9CD=2A1B
9CE=29FA//4+2A1B//4 9D7=2A1C 9E0=29E4 9E1=29E6 9E2-9E3=2A15 9E6-9EF=1FEC 9F0=2A06 9F1=2A08
9F2-9F3=1FBD 9F4-9F9=1FF9 9FA=3BB 9FB=1FBF 9FC=2A1D 9FD=22E 9FE=/D3 A01-A03=/D0 A05-A06=2A24
A07-A08=2A29 A09-A0A=2A21 A0F=2A2B A10=2A26 A13=2A23 A14=2A27 A15-A28=2A2F A2A-A2F=2A43 A30=2A4A
A32=2A4B A35=2A4C A38-A39=2A2C A3C=/CF A3E-A42=2A4E A47-A48=2A53 A4B-A4D=2A55 A51=2A2E A5C=2A4D
A66-A6F=1FEC A70-A71=/D4 A72=2A28 A73=2A20 A74=2A1F A75=2A49 A76=22F A81-A83=/D0 A85-A8B=2A5A
A8C=2A62 A8D=2A64 A8F-A91=2A65 A93-A9C=2A68 A9D-AA8=2A73 AAA-AB0=2A7F AB2=2A86 AB3=2A8C
AB5-AB9=2A87 ABC=/CF ABD-AC4=2A8D AC5=2A97 AC7-AC9=2A98 ACB-ACD=2A9B AD0=2A59 AE0=2A61 AE1=2A63
AE2-AE3=2A95 AE6-AEF=1FEC AF0=230 AF1=1FC0 AF9=2A72 AFA=/8D AFB=/8C AFC=/8E AFD=/CF AFE=/CF
AFF=/CF B01-B03=/D0 B05-B0B=2A9F B0C=2AA7 B0F-B10=2AA9 B13-B28=2AAB B2A-B2F=2AC1 B30=2AC8
B32-B33=2AC9 B35=2ACB B36-B39=2ACD B3C=/CF B3D-B44=2AD1 B47=2ADB B4D=2ADF B55=/3F B56-B57=2AE0
B5F=2AC7 B60=2AA6 B61=2AA8 B62-B63=2AD9 B66-B6F=1FEC B70=3BC B71=2ACC B72-B77=1FFF B82=/D1
B83=2AF0 B85-B8A=2AE4 B8E-B90=2AEA B92-B93=2AED B95=2AF1 B99-B9A=2AF2 B9C=2B03 B9E-B9F=2AF4
BA3-BA4=2AF6 BA8=2AF8 BA9=2B02 BAA=2AF9 BAE-BB0=2AFA BB1=2B01 BB2=2AFD BB3=2B00 BB4=2AFF BB5=2AFE
BB6-BB9=2B04 BBE-BC2=2B08 BC6-BC8=2B0D BCD=2B13 BD0=2AE3 BD7=2B14 BE6-BEF=1FEC BF0-BF2=200B
BF3-BF8=3BD BF9=1FC2 BFA=3C3 C00=/D0 C01-C03=/D0 C04=/D1 C05-C0B=2B16 C0C=2B1E C0E-C10=2B20
C12-C1A=2B23 C1B-C1C=2B2D C1D-C28=2B30 C2A-C32=2B3C C33-C34=2B4A C35-C39=2B45 C3C=/CF C3D-C44=2B4D
C46-C47=2B57 C4A-C4D=2B5A C55-C56=2B5E C58=2B2C C59=2B2F C5A=2B4C
C5C=2B46//3+2B5D//3+2B42//3+2B50//3 C5D=2B3B//3+2B5D//3 C60=2B1D C61=2B1F C62-C63=2B55
C66-C6F=1FEC C77=231 C78-C7B=1FEC C7C-C7E=1FED C7F=3DD C80=2B98 C81-C83=/D0 C84=232 C85-C8B=2B61
C8C=2B69 C8E-C90=2B6B C92-CA8=2B6E CAA-CB2=2B85 CB3=2B93 CB5-CB9=2B8E CBC=/CF CBD=2B95
CBE-CBF=2B99 CC1-CC4=2B9C CC6=2BA2 CCC-CCD=2BA7 CD5-CD6=2BA9 CDC=2B8F//3+2BA8//3+2B8B//3+2B9B//3
CDD=2B84//3+2BA8//3 CDE=2B94 CE0=2B68 CE1=2B6A CE2-CE3=2BA0 CE6-CEF=1FEC CF1-CF2=2B96 CF3=/D1
D00=/D1 D01-D03=/D0 D04=2BE4 D05-D08=2BAC D09-D0B=2BB1 D0C=2BB5 D0E-D10=2BB7 D12-D30=2BBA D31=2BE1
D32=2BD9 D33-D34=2BDF D35-D39=2BDA D3A=2BE2 D3B=2BF5//4 D3C=2BF5//4 D3D=2BE3 D3E-D44=2BE5
D46-D48=2BEE D4D=2BF5 D4E=2BD8//4+2BF5//4 D4F=3DE D54=2BD6//4+2BF5//4 D55=2BD7//4+2BF5//4
D56=2BE0//4+2BF5//4 D57=2BF4 D58-D5E=2023 D5F=2BB0 D60=2BB4 D61=2BB6 D62-D63=2BEC D66-D6F=1FEC
D70-D78=202A D79=3DF D7A=2BCB//4+2BF5//4 D7B=2BD0//4+2BF5//4 D7C=2BD8//4+2BF5//4
D7D=2BD9//4+2BF5//4 D7E=2BDF//4+2BF5//4 D7F=2BBD//4+2BF5//4 D81-D83=/D0 D85-D96=2BF7 D9A-DB1=2C09
DB3-DBB=2C21 DBD=2C2A DC0-DC6=2C2B DCA=2C43 DCF-DD4=2C32 DD6=2C38 DD8=2C39 DD9=2C3D DDB=2C3F
DDF=2C3B DE6-DEF=1FEC DF2=2C3A DF3=2C3C DF4=233 E01-E32=3264 E34-E3A=3297 E3F=1FC7 E40-E45=329E
E46=1F98 E47-E4D=/E3 E4E=/E2 E4F=234 E50-E59=1FEC E5A-E5B=235 E81-E82=32A6 E84=32A8 E86-E89=32A9
E8A=32AE E8C=32AF E8D=32B2 E8E=32B0 E8F-EA3=32B3 EA5=32C8 EA7-EA9=32C9 EAA=32AD EAB-EB2=32CC
EB4-EBD=32D5 EC0-EC4=32DF EC6=1F99 EC8-ECD=/EB ECE=/EA ED0-ED9=1FEC EDE=32A5 EDF=32B1
F00=336F//4+3386//4+/D1/4 F01-F03=3E7 F04-F0A=239 F0B=242 F0D-F12=243 F13=3EA F14=64 F15-F17=3EB
F18-F19= F1A-F1F=3EE F20-F29=1FEC F2A-F32=1FED//4 F33=1FEC//4 F34=3F4 F35= F36=3F5 F37= F38=3F6
F39=/F3 F3A-F3D=147 F3E-F3F= F40=3329 F41=332C F42=332E F44=3330 F45=3332 F46=3334 F47=3336
F49=3338 F4A=333A F4B=333C F4C=333E F4E=3340 F4F=3342 F50=3344 F51=3346 F53=3348 F54=334A F55=334C
F56=334E F58=3350 F59=3352 F5A=3354 F5B=3356 F5D=3358 F5E=335A F5F=335C F60=335E F61=3360 F62=3362
F63=3365 F64=3367 F65=3369 F66=336B F67=336D F68=336F F6A=3362/21 F6B=332B F6C=3364 F71-F72=3379
F74=337E F7A-F7D=3384 F7E-F7F=/D1 F80=337C F82=/D0 F83=/D0 F84=3388 F85=249 F86-F87= F88=3371
F89=3373 F8A-F8B=3377 F8C=3375 F8D=3372 F8E=3374 F8F=3376 F90=332A F91=332D F92=332F F94=3331
F95=3333 F96=3335 F97=3337 F99=3339 F9A=333B F9B=333D F9C=333F F9E=3341 F9F=3343 FA0=3345 FA1=3347
FA3=3349 FA4=334B FA5=334D FA6=334F FA8=3351 FA9=3353 FAA=3355 FAB=3357 FAD=3359 FAE=335B FAF=335D
FB0=335F FB1=3361 FB2=3363 FB3=3366 FB4=3368 FB5=336A FB6=336C FB7=336E FB8=3370 FBA=3359/21
FBB=3361/21 FBC=3363/21 FBE-FC5=3F7 FC6= FC7-FCC=3FF FCE-FCF=405 FD0-FD1=240 FD2-FD4=24A
FD5-FD8=407 FD9-FDA=24D 1000=35CF 1001=35D1 1002=35D3 1003=35D7 1004=35DA 1005=35DC 1006=35DF
1007=35E3 1008=35E8 1009=35EF 100A-100B=35F3 100C=35F6 100D=35F8 100E=35FB 100F=35FE
1010-1012=3602 1013=3607 1014=360A 1015-1016=360E 1017=3615 1018=3618 1019=361B 101A=361D
101B=361F 101C=3623 101D=3625 101E=362C 101F=362E 1020=3634 1021-1025=363B 1027-102A=3645
102B=3649//4 102C=3649 102D=364D 102E=364F 102F=3651 1030=3654 1031=3659 1032=365D 1033=3650
1034=3660 1035=365B 1036=/D1 1037=/F7 1038=/D2 1039-103A=3665 103B=361E 103C=3622 103D=3626
103E=3631 103F=362C//4+3665//4+362C//4 1040-1049=1FEC 104A-104B=A8 104C-104F=264 1050-1051=3629
1052-1055=3641 1056-1059=3655 105A=35DB 105B=35E9 105C-105D=3636 105E=360D 105F=361C 1060=3624
1061=35ED 1062=3661 1063-1064=3667 1065=362B 1066=363A 1067-1068=3662 1069-106D=3669 106E=35FF
106F-1070=3638 1071=364E 1072=364B 1073-1074=3652 1075=35D0 1076=35D2 1077=35D4 1078=35DD
1079=35E6 107A=35F0 107B=3605 107C=360B 107D-107E=3610 107F=3616 1080=3628 1081=362F 1082=3627
1083=364A 1084=365A 1085=365C 1086=365F 1087=366E 1088=3670 1089-108A=3673 108B=366F
108C-108D=3671 108E=3613 108F=3675 1090-1099=1FEC 109A-109B=3676 109C=364C 109D=365E 109E-109F=40D
10D0=2508 10D1=250A 10D2=250C 10D3=250E 10D4=2510 10D5=2512 10D6=2514 10D7=2518 10D8=251A
10D9=251C 10DA=251E 10DB=2520 10DC=2522 10DD=2526 10DE=2528 10DF=252A 10E0=252C 10E1=252E
10E2=2530 10E3=2534 10E4=2536 10E5=2538 10E6=253A 10E7=253C 10E8=253E 10E9=2540 10EA=2542
10EB=2544 10EC=2546 10ED=2548 10EE=254A 10EF=254E 10F0=2550 10F1=2516 10F2=2524 10F3=2532
10F4=254C 10F5=2552 10F6-10F7=2554 10F8-10FA=2557 10FB=E0 10FD=255A 10FE-10FF=255C 1100-115E=42CB
115F-11A7=4347 11A8-11FF=43A7 1200-120F=2793 1210-121F=27A4 1220-122F=27BB 1230-1237=27CC
1238-123F=27DB 1240-1248=27E4 124A-124B=27EE 124C=27F1 124D=27F3 1250-1256=27F4 1258=27FB
125A-125D=27FC 1260-1267=2800 1268-1277=280F 1278-127F=2820 1280-1288=2829 128A-128D=2832
1290-1297=2836 1298-129F=283F 12A0-12A7=2848 12A8-12B0=2851 12B2-12B3=285B 12B4=285E 12B5=2860
12B8-12BE=2861 12C0=2869 12C2-12C3=286B 12C4=286E 12C5=2870 12C8-12D6=2871 12D8-12DF=2880
12E0-12F7=288F 12F8-12FF=28AE 1300-1307=28B7 1308-1310=28C0 1312-1313=28CA 1314=28CD 1315=28CF
1318-131F=28D0 1320-1327=28DC 1328-132F=28E5 1330-1337=28F5 1338-133F=28FE 1340-134F=290D
1350-1357=2923 1358-135A=2932 135D=/C2 135E=/C1 135F=/C0 1360=E1 1361=5D 1362=8A 1363-1366=5E
1367=7A 1368=E2 1369-1371=1FED 1372-137C=2033 1380=27B4 1381=27B6 1382-1383=27B8 1384=2808
1385=280A 1386-1387=280C 1388=291D 1389=291F 138A-138B=2921 138C=292B 138D=292D 138E-138F=292F
1390-1399=32B 13F8-13FD=3A31 1400=12 1401-157B=3A5D 157C=3C0A 157D=3BD8 157E-158D=3BDA
158E-1595=3BEB 1596-15A6=3BF9 15A7-166C=3C0B 166D=40B 166E=8D 166F=3BD9 1670=3BEA 1671-1676=3BF3
1677-167F=3CD1 1680=B//4 1681-169A=3D31 169B-169C=14B 16A0=3D4C 16A1=3D4C/21 16A2=3D4D 16A3=3D71
16A4=3D4D/21 16A5=3D4D/27 16A6=3D4E 16A7=3D4E/21 16A8=3D4F 16A9=3D4F/21 16AA=3D6D 16AB=3D6F
16AC=3D4F/24 16AD=3D4F/27 16AE=3D4F/2A 16AF-16B2=3D51 16B3=3D54/21 16B4=3D54/24 16B5=3D54/27
16B6=3D54/2A 16B7=3D56 16B8=3D74 16B9-16BA=3D57 16BB=3D58/21 16BC=3D58/25 16BD=3D58/29 16BE=3D59
16BF=3D59/21 16C0=3D59/27 16C1=3D5A 16C2=3D5A/21 16C3=3D5C 16C4=3D5C/21 16C5=3D5D 16C6=3D5D/21
16C7-16CA=3D5E 16CB=3D61/21 16CC=3D61/26 16CD=3D61/28 16CE=3D61/2A 16CF=3D63 16D0=3D63/21
16D1=3D63/27 16D2=3D64 16D3=3D64/21 16D4=3D64/27 16D5=3D5F/21 16D6=3D65 16D7=3D67 16D8=3D67/21
16D9=3D67/27 16DA=3D68 16DB=3D68/21 16DC=3D69 16DD=3D69/21 16DE-16DF=3D6A 16E0=3D72 16E1-16E2=3D76
16E3=3D73 16E4=3D75 16E5-16E6=3D78 16E7=3D79/21 16E8=3D79/27 16E9=3D57/21 16EA=3D61/23
16EB-16ED=68 16EE=3D5D//4+3D68//4 16EF=3D67/21+3D67/21 16F0=3D4E//4+3D4E//4 16F1=3D55 16F2=3D62
16F3=3D6C 16F4=3D50 16F5=3D5B 16F6=3D66 16F7=3D6E 16F8=3D70 1700-170D=34DD 170E-1715=34EC
171F=34EB 1720-1734=34F5 1735-1736=A5 1740-1753=350B 1760-176C=3520 176E-1770=352D 1772-1773=3530
1780-17A2=36DB 17A3-17B3=36FF 17B4-17B5= 17B6-17C5=3710 17C6-17C7=/D1 17C8-17CA=/F8 17CB=/3F
17CC=/3F 17CD=/3F 17CE=/3F 17CF=/3F 17D0=/3F 17D1=/3F 17D2=3720 17D3= 17D4-17D5=AA 17D6=65
17D7=1F9A 17D8-17DA=268 17DB=1FC8 17DC=36FE 17DD=/3F 17E0-17E9=1FEC 17F0-17F9=1FEC 1800=211
1801=86 1802=35 1803=8B 1804-1805=62 1806-1807=14 1808=36 1809=8C 180A-180F= 1810-1819=1FEC
1820=391F 1821=3921 1822=3924 1823=392A 1824=392C 1825=392F 1826=3931 1827-1829=3934 182A=393B
182B=393D 182C=3940 182D=3942 182E=3947 182F-1831=3949 1832=3952 1833=3955 1834=3958 1835=395E
1836=3962 1837=3965 1838=3967 1839=3969 183A=396C 183B-183C=3971 183D=3975 183E=3979
183F-1842=397C 1843=391E 1844=3922 1845=3925 1846=392B 1847=392D 1848=3930 1849=3932 184A=3937
184B=393C 184C=393E 184D=3941 184E=3943 184F=3948 1850=3953 1851=3956 1852=3959 1853=395F
1854=3973 1855=3963 1856=3968 1857=396D 1858=3977 1859=397A 185A-185B=3980 185C=395C 185D=3923
185E=3926 185F=3929 1860=3933 1861=392E 1862=3938 1863=396E 1864=3944 1865=3946 1866=393F
1867=394C 1868=3954 1869=3957 186A=3960 186B=396A 186C=3978 186D=397B 186E=3974 186F=3976
1870=3982 1871=395A 1872=3964 1873=3927 1874=396F 1875=3966 1876=396B 1877=3961 1878=395B
1880-1886=3917 1887=3920 1888=3928 1889=3970 188A=3939 188B=395D 188C=3983 188D-188E=3985
188F-1890=3988 1891=398C 1892-1893=398E 1894=3991 1895=3993 1896-1897=3995 1898=398A 1899=3994
189A=3945 189B=393A 189C-189D=394D 189E=3984 189F=3987 18A0=398B 18A1=398D 18A2=394F 18A3=3992
18A4-18A5=3950 18A6-18A7=3997 18A8=3990 18A9=399A 18AA=3999 18B0-18F5=3CDA 1900-191C=34AA
191D=34B2//4+34D0//4 191E=34B5//4+34D1//4 1920-192B=34C7 1930-1938=34D3 1939-193B=/103 1940=40C
1944=71 1945=7B 1946-194F=1FEC 1950-196D=3722 1970-1974=3740 1980-19AB=3746 19B0-19C9=3772
19D0-19D9=1FEC 19DA=1FED 19DE=3762//4+3778//4 19DF=3762//4+3778//4+3783//4 19E0-19FF=413
1A00-1A1B=3533 1A1E-1A1F=E3 1A20-1A4C=378D 1A4D-1A52=37C2 1A53=37BA 1A54=37B3//4+37D9//4+37B3//4
1A55-1A57=37BC 1A58=3793//4 1A59=3793//4 1A5A=37A8//4 1A5B=37A8//4 1A5C-1A5E=37BF 1A60=37D9
1A61=37C8 1A62-1A63=37CA 1A64=37CB//4 1A65-1A6A=37CC 1A6B=37BB 1A6C=37C9 1A6D=37D8 1A6E-1A6F=37D2
1A70-1A72=37D5 1A73=37D4 1A74=/D1 1A75-1A7C=/FB 1A7F= 1A80-1A89=1FEC 1A90-1A99=1FEC 1AA0-1AA6=26B
1AA7=1F9B 1AA8-1AAB=AC 1AAC-1AAD=272 1AB0=/3F 1AB1=/3F 1AB2=/3F 1AB3=/3F 1AB4-1AB5=/3F 1AB6=/40
1AB7=/40 1AB8=/40 1AB9=/40 1ABA=/40 1ABB=/3F 1ABC-1ABD=/3F 1ABE=/42 1ABF=234C//4 1AC0=234F//4
1AC1=/3F 1AC2-1AC3=/3F 1AC4=/40 1AC5=/3F 1AC6=/3F 1AC7=/3F 1AC8=/3F 1AC9-1ACA=/3F 1ACB=/3F
1ACC=2244/21 1ACD=22E6/21 1ACE=231D/27 1ACF=/3F 1AD0=/3F 1AD1=/3F 1AD2=/3F 1AD3=/3F 1AD4=/3F
1AD5=/3F 1AD6=/3F 1AD7=/3F 1AD8=/3F 1AD9=/3F 1ADA=/3F 1ADB=/3F 1ADC-1ADD=/3F 1AE0=/3F 1AE1=/3F
1AE2=/3F 1AE3=/3F 1AE4=/3F 1AE5-1AE6=/3F 1AE7=/3F 1AE8=/3F 1AE9=/3F 1AEA=/3F 1AEB=/3F 1B00=/D0
1B01-1B02=/D0 1B03=/D6 1B04=/D2 1B05=3858 1B07=385A 1B09=385C 1B0B=385E 1B0D=3860 1B0F-1B11=3862
1B13=3866 1B14-1B22=3869 1B23-1B27=3879 1B28-1B2F=387F 1B30-1B32=3888 1B33=388D 1B34=/CF
1B35-1B3A=388E 1B3C=3895 1B3E-1B3F=3897 1B42=389B 1B44=389D 1B45-1B46=3867 1B47=3878 1B48=387E
1B49=3887 1B4A-1B4B=388B 1B4C=386F//3+389D//3+3871//3 1B4E=B1 1B4F=B3 1B50-1B59=1FEC 1B5A=E5
1B5B=E7 1B5C=8E 1B5D=66 1B5E=B0 1B5F=B2 1B60=13 1B61-1B6A=433 1B6B-1B73= 1B74-1B7C=43D
1B7D-1B7E=E8 1B7F=E6 1B80=/D1 1B81=/D8 1B82=/D2 1B83-1B8A=317D 1B8B-1B98=3186 1B99=3195 1B9A=3197
1B9B=3199 1B9C=319C 1B9D=319F 1B9E-1B9F=31A1 1BA0=31A4 1BA1=3198 1BA2=319A 1BA3=319D
1BA4-1BAB=31A5 1BAC=3196 1BAD=31A0 1BAE=3185 1BAF=31A3 1BB0-1BB9=1FEC 1BBA=317D//4 1BBB=319B
1BBC=319E 1BBD=3194 1BBE=3184//19 1BBF=3195//19 1BC0=3568 1BC1=3568//4 1BC2=3569 1BC3=3569//4
1BC4=3569//4 1BC5=356A 1BC6=356A//4 1BC7=356B 1BC8=356B//4 1BC9=356C 1BCA=356C//4 1BCB=356D
1BCC=356D//4 1BCD=356D//4 1BCE=356E 1BCF=356E//4 1BD0-1BD2=356F 1BD3=3571//4 1BD4=3572
1BD5=3572//4 1BD6=3573 1BD7=3573//4 1BD8=3574 1BD9=3574//4 1BDA=3574//4 1BDB=3575 1BDC=3575//4
1BDD-1BDE=3576 1BDF=3577//4 1BE0-1BE5=3578 1BE6=/CF 1BE7=357E 1BE8=357E//4 1BE9-1BEA=357F
1BEB=3580//4 1BEC=3581 1BED=3581//4 1BEE=3582 1BEF=3582//4 1BF0-1BF3=3583 1BFC-1BFF=27F
1C00-1C09=343A 1C0A-1C1A=3447 1C1B=3459 1C1C-1C23=345B 1C24=3458 1C25=345A 1C26-1C35=3464
1C36=3463 1C37=/CF 1C3B-1C3C=A1 1C3D-1C3F=261 1C40-1C49=1FEC 1C4D-1C4F=3444 1C50-1C59=1FEC
1C5A-1C7D=399C 1C7E-1C7F=DA 1C80=2415//4 1C81=241B//4 1C82=2458//4 1C83=2461//4 1C84=2464//4
1C85=2464//4 1C86=2492//4 1C87=2497//4 1C88=246E//4 1C8A=2466 1CC0-1CC7=274 1CD0-1CE8= 1CE9=29BC
1CEA=29BC//4 1CEB=29BC//4 1CEC=29BC//4 1CED=/D1 1CEE=29BC//4 1CEF=29BC//4 1CF0=29BC//4
1CF1=29BC//4 1CF2=/D2 1CF3=/D2 1CF4= 1CF5-1CF6=29BD 1CF7-1CF9= 1CFA=29BC//4 1D00=21F4
1D01-1D02=21F8 1D03=2205 1D04=220D 1D05-1D06=2217 1D07=2225 1D08=2236 1D09=2264 1D0A=226E
1D0B=2274 1D0C=2281 1D0D=229B 1D0E=22A6 1D0F=22B6 1D10=22C4 1D11=22B7 1D12=22C5 1D13=22C0
1D14=22BA 1D15=22D2 1D16-1D17=22CA 1D18=22D4 1D19=22EA 1D1A=22EE 1D1B=231E 1D1C=232C
1D1D-1D1E=232E 1D1F=233F 1D20=2344 1D21=234D 1D22=2361 1D23=236C 1D24-1D25=2394 1D26=23A9
1D27=23B7 1D28=23BD 1D29=23C2 1D2A=23CD 1D2B=2443 1D2D=21F3/21/14+2224//14 1D2F=2204 1D3B=22A5
1D4C=2236//14 1D4E=2264//14 1D6B=2330 1D6C=2206 1D6D=221A 1D6E=223F 1D6F=229C 1D70=22A7 1D71=22D7
1D72=22EC 1D73=22F9 1D74=230B 1D75=2321 1D76=2363 1D77=224E 1D79=2244/21 1D7A=231D/21+2253//4
1D7B=2266 1D7C=226B 1D7D=22D5 1D7E=2336 1D7F=2342 1D80=2208 1D81=221B 1D82=2240 1D83=224B
1D84=2275 1D85=228C 1D86=229D 1D87=22AB 1D88=22D8 1D89=22F3 1D8A=230C 1D8B=2316 1D8C=2346
1D8D=2351 1D8E=2364 1D8F=21F6 1D90=21FE 1D91=221F 1D92=2229 1D93=2231 1D94=2235 1D95=222F
1D96=2268 1D97=22C7 1D98=2317 1D99=2337 1D9A=236F 1DC0=/3F 1DC1-1DC2=/3F 1DC3=/3F 1DC4=/3F
1DC5=/3F 1DC6=/3F 1DC7=/3F 1DC8=/3F 1DC9=/3F 1DCA=22E6//4 1DCB=/3F 1DCC=/3F 1DCD=/3F 1DCE-1DCF=/3F
1DD0=/40 1DD1=/3F 1DD2=237E//4 1DD3=21F3/21 1DD4=21F3/21+2224//4 1DD5=21F3//4+22B5//4
1DD6=21F3//4+2343//4 1DD7=220C//4+/3C/4 1DD8=2216/27 1DD9=2216/21 1DDA=2244//4 1DDB=2249//4
1DDC=2273//4 1DDD-1DDE=227E//4 1DDF=229B//4 1DE0-1DE1=22A3//4 1DE2=22E8//4 1DE3=22E6/27
1DE4=2307//4 1DE5=2307/24 1DE6=2360//4 1DE7=21FC//4 1DE8=2201//4 1DE9=220B//4 1DEA=222E//4
1DEB=223B//4 1DEC=2286//4 1DED=22B5//4+/40/4 1DEE=22D3//4 1DEF=2314//4 1DF0=232B//4+/40/4
1DF1=234C//4 1DF2=21F3//4+/37/4 1DF3=22B5//4+/37/4 1DF4=232B//4+/37/4 1DF5=/3F 1DF6=/3F 1DF7=/3F
1DF8-1DF9=/3F 1DFA=/40 1DFB-1DFC=/3F 1DFD=/40 1DFE-1DFF=/3F 1E9C-1E9D=2312 1E9E=2307/21/8+2307//A
1E9F=2223 1EFB=227E//4+227E//4 1EFD=234A 1EFF=235D 1FBD=2F1 1FBF=2F1 1FC0=2F3 1FFE=2F2 200B-200F=
2010=17 2012-2015=18 2016=1B5 2017=F 2018=13B/21 2019=13B/23 201A=13B/26 201B=13B/28 201C=13E/21
201D=13E/22 201E=13E/24 201F=13E/26 2020-2021=1D4 2022-2023=1DA 2027=1DC 2028-2029=9 202A-202E=
2030=1D0 2031=1D2 2032=1E0 2035=1E1 2038=1E4 2039-203A=13C 203B=1E5 203D=83 203E=D 203F=1E6
2040=1E8 2041-2042=1EA 2043=1DD 2044=4EC 2045-2046=14D 204A=1CB 204B=1BE 204C-204D=1DE 204E=1C3
204F=41 2050=1E9 2051=1C4 2052=4E7 2053=1E 2054=1E7 2055-2056=11C 2058-205E=11E 2060-2064=
2066-206F= 20A0-20A6=1FCA 20A7=22D3//A+231D//4+2307//4 20A9-20B9=1FD1 20BA-20C1=1FE3
20D0-20D2=/11D 20D3-20D7=/11F 20D8=/41 20D9=/41 20DA=/41 20DB-20DC=/124 20DD=/42 20DE=/42 20DF=/42
20E0=/42 20E1=/126 20E2=/42 20E3=/42 20E4=/42 20E5=/41 20E6-20E9=/127 20EA=/41 20EB=/41 20EC=/40
20ED=/40 20EE=/40 20EF=/40 20F0=/3F 2104=44A 2108=44B 210F=2253+/45 2114=44C 2117-2118=44D
211E-211F=44F 2120=2307//14+229A//14 2122=231D//14+229A//14 2123=451 2125=452 2127=453 2129=454
212E=455 213A=456 2141-2144=457 214A=45B 214B=577 214C=45C 214D=21F3//A+1C7//4+2307//A 214E=2242
214F=45D 2180-2182=203E 2184=2214 2185=1FF2 2186-2188=2041 218A-218B=45E 2190=460 2191=462
2192=461 2193-2199=463 219C-21AD=46A 21AF-21CC=47C 21D0-2203=49A 2205-2208=4CE 220A-220B=4D2
220D=4D4 220E-2211=4D6 2212=4E6 2213-2215=4E9 2216-221B=4ED 221C=4F4 221D-2223=4F6 2225=4FD
2227-222B=4FE 222E=503 2231-2240=504 2242-2243=514 2245-2246=516 2248=518 224A-225F=519 2261=52F
2263-226C=530 2272-2273=53A 2276-2277=53C 227A-227F=53E 2282-2283=544 2286-2287=546 228A-22AB=548
22B0-22BC=56A 22BD-22DF=578 22E4-22E9=59B 22EE-2307=5A1 2308-230B=14F 230C-2328=5BB 232B-2429=5D8
2440-244A=6D7 24EB=1FED//6+1FED//6 24EC=1FED//6+1FEE//6 24ED=1FED//6+1FEF//6 24EE=1FED//6+1FF0//6
24EF=1FED//6+1FF1//6 24F0=1FED//6+1FF2//6 24F1=1FED//6+1FF3//6 24F2=1FED//6+1FF4//6
24F3=1FED//6+1FF5//6 24F4=1FEE//6+1FEC//6 24F5-24FD=1FED//6 24FE=1FED//6+1FEC//6 24FF=1FEC//6
2500-25FF=6E2 2600-262F=B87 2630-2637=1143 2638-266C=BB7 266D-266F=140A 2670-2689=BEC
268A-268F=113D 2690-26FF=C06 2700-2720=C90 2721-2767=CB3 2768-2775=177 2776-277E=1FED//6
277F=1FED//6+1FEC//6 2780-2788=1FED//6 2789=1FED//6+1FEC//6 278A-2792=1FED//6 2793=1FED//6+1FEC//6
2794-27C4=CFA 27C5-27C6=16B 27C7-27E5=D2B 27E6-27EF=16D 27F0-27FF=D4A 2800-28FF=103D 2900-2982=D5A
2983-2998=155 2999-29D7=DDD 29D8-29DB=1B7 29DC-29FB=E1C 29FC-29FD=153 29FE-2A0B=E3C 2A0D-2A73=E4A
2A77-2ADB=EB1 2ADD-2B73=F16 2B76-2BFF=FAD 2C30-2C5F=24B0 2C61=2284 2C65=21F5 2C66=2320 2C68=2258
2C6A=2277 2C6C=2369 2C71=2348 2C73=234E 2C74=2349 2C76=2259 2C77=22DE 2C78=222B 2C79=22F2
2C7A=22CC 2C7B=222D 2C81=23D4 2C83=23D5 2C85=23D6 2C87=23D7 2C89=23D8 2C8B=23DA 2C8D=23DB
2C8F=23DC 2C91=23DD 2C93=23DE 2C95=23DF 2C97=23E1 2C99=23E2 2C9B=23E3 2C9D=23E6 2C9F=23E7
2CA1=23E8 2CA3=23E9 2CA5=23EA 2CA7=23EB 2CA9=23EC 2CAB=23ED 2CAD=23EE 2CAF=23EF 2CB1=23F0
2CB3=240B 2CB5=240C 2CB7=23D9 2CB9=23E0 2CBB=23E4 2CBD=23E5 2CBF=23F1 2CC1=23F2 2CC3=23F5
2CC5=23F6 2CC7=23F7 2CC9=23FB 2CCB=23FD 2CCD=23FE 2CCF=23FF 2CD1=2400 2CD3=2401 2CD5=2402
2CD7=2405 2CD9=2407 2CDB=2408 2CDD=2409 2CDF=240D 2CE1=240E 2CE3=240F 2CE4=23DF//4+23D4//4+23DE//4
2CE5-2CEA=1037 2CEC=23F4 2CEE=2404 2CEF=/3F 2CF0=/2F 2CF1=/2E 2CF3=23FA 2CF9=8F 2CFA-2CFB=7C
2CFC=12A 2CFD=205A 2CFE=90 2CFF=12B 2D00=2509 2D01=250B 2D02=250D 2D03=250F 2D04=2511 2D05=2513
2D06=2515 2D07=2519 2D08=251B 2D09=251D 2D0A=251F 2D0B=2521 2D0C=2523 2D0D=2527 2D0E=2529
2D0F=252B 2D10=252D 2D11=252F 2D12=2531 2D13=2535 2D14=2537 2D15=2539 2D16=253B 2D17=253D
2D18=253F 2D19=2541 2D1A=2543 2D1B=2545 2D1C=2547 2D1D=2549 2D1E=254B 2D1F=254F 2D20=2551
2D21=2517 2D22=2525 2D23=2533 2D24=254D 2D25=2553 2D27=2556 2D2D=255B 2D30-2D3B=2759
2D3C-2D53=2766 2D54-2D65=277F 2D66=2765 2D67=277E 2D6F=2791 2D70=27C 2D7F= 2D80=27A3 2D81=27BA
2D82=27CB 2D83=27D4 2D84=27E3 2D85=280E 2D86=281F 2D87=2828 2D88=283E 2D89=2847 2D8A=2850
2D8B=2888 2D8C=28A7 2D8D=28B6 2D8E=28BF 2D8F=28E4 2D90=28ED 2D91=28FD 2D92=2931 2D93-2D96=28D8
2DA0-2DA6=2935 2DA8-2DAE=293C 2DB0-2DB6=2943 2DB8-2DBE=294A 2DC0-2DC6=2951 2DC8-2DCE=2958
2DD0=2960 2DD1=2962 2DD2=2964 2DD3=2966 2DD4=2968 2DD5=296A 2DD6=296C 2DD8-2DDE=296D
2DE0-2DE2=2414//4 2DE3=241B//4 2DE4=2424//4 2DE5=2428//4 2DE6=243A//4 2DE7=2442//4 2DE8=244C//4
2DE9=244F//4 2DEA=2458//4 2DEB=245A//4 2DEC=245E//4 2DED=2461//4 2DEE=2464//4 2DEF=2471//4
2DF0=247D//4 2DF1=2482//4 2DF2=248C//4 2DF3=248E//4 2DF4=24A9//4 2DF5=2461//4+2464//4 2DF6=2411//4
2DF7=2422//4 2DF8=2439//4 2DF9=246E//4 2DFA=2497//4 2DFB=249A//4 2DFC=249C//4 2DFD=24A0//4
2DFE=24A2//4 2DFF=24A6//4 2E00-2E01=1EC 2E02-2E05=185 2E06-2E08=1EE 2E09-2E0A=189 2E0B=1F1
2E0C-2E0D=18B 2E0E-2E16=1F2 2E17=20 2E18=84 2E19=12C 2E1A-2E1B=1FB 2E1C-2E1D=18D 2E1E-2E1F=1FD
2E20-2E29=18F 2E2A-2E2D=125 2E2E=75 2E2F=2490 2E30=91 2E31=9B 2E32=2A 2E33=9C 2E34=29 2E35=42
2E36-2E38=1D6 2E39=1BC 2E3A-2E3B=1C 2E3C=92 2E3D=129 2E3E=1B6 2E3F=1C0 2E40=21 2E41=2B 2E42=13E/27
2E43=1F 2E44-2E48=1FF 2E49=44 2E4A=1C9 2E4B=1D9 2E4C=2C 2E4D=1BF 2E4E-2E4F=2D 2E50-2E51=CB1
2E52=1CC 2E53=6E 2E54=76 2E55-2E5C=199 2E5D=22 2E80=26004E36/21 2E81=1BC005382/21 2E82=40004E5B//4
2E83=40004E5A//4 2E84=40004E59/21 2E85=7E004EBB//4 2E86=CD005182/21 2E87=1010051E0/21
2E88=120005200/21 2E89=120005202//4 2E8A=19B00535C/21 2E8B=1AB005369/21 2E8C=2E3005C0F/21
2E8D=2E3005C0F/27 2E8E=2F6005C22/21 2E8F=2F6005C23//4 2E90=2F6005C22//4 2E91=2F6005C23/21
2E92=35C005DF3//4 2E93=38B005E7A//4 2E94=3EF005F51//4 2E95=3EF005F50/21 2E96=421005FC4//4
2E97=421005FC3/21 2E98=45E00624C//4 2E99=487006535//4 2E9B=4E20065E1//4 2E9C=4E90065E5/21
2E9D=513006708/21 2E9E=56D006B7A/21 2EA0=5BC006C11//4 2EA1=5D4006C35//4 2EA2=5D4006C3A//4
2EA3=5F200706C//4 2EA4=60D00722B//4 2EA5=60D00722B/21 2EA6=62F004E2C//4 2EA7=65A00725B/21
2EA8=66E0072AD//4 2EA9=68800738B/21 2EAA=70300758B/21 2EAB=76C0076EE/21 2EAC=7BF00793A/21
2EAD=7BF00793B//4 2EAE=820007AF9/21 2EAF=850007CF9//4 2EB0=850007E9F//4 2EB1=88C007F53//4
2EB2=88C007F52//4 2EB3=88C007F53/21 2EB4=88C007F53/27 2EB5=88C007F52/21 2EB6=8A2007F8A/21
2EB7=8A2007F8A/27 2EB8=8A3007F8B//4 2EB9=8C8008002//4 2EBA=901008080//4 2EBB=90100807F/21
2EBC=90B008089/21 2EBD=94E0081FC/21 2EBE=9A4008279//4 2EBF=9A4008279/21 2EC0=9A4008279/27
2EC1=9C400864E//4 2EC2=A0D008864//4 2EC3=A23008980//4 2EC4=A2300897F//4 2EC5=A330089C1//4
2EC6=A530089D2//4 2EC7=A530089D2/21 2EC8=A68008BA0//4 2EC9=AD6008D1D//4 2ECA=B1A008DB3/21
2ECB=B45008F66//4 2ECC=B84008FB6//4 2ECD=B84008FB6/21 2ECE=B84008FB6/27 2ECF=B9E009091/21
2ED0=BE2009485//4 2ED1-2ED2=C12009577//4 2ED3=C1300957F//4 2ED4=C220095E8//4 2ED5=C4500961C/21
2ED6=C4500961D//4 2ED7=C730096E8/21 2ED8=C8F009752//4 2ED9=CC70097E6//4 2EDA=CF8009875//4
2EDB=D190098CE//4 2EDC=D3F0098DE//4 2EDD=D470098DF//4 2EDE=D470098E0/21 2EDF=D470098E0//4
2EE0=D48009963//4 2EE1=D6C009996/21 2EE2=D8B009A6C//4 2EE3=DB2009AA8/21 2EE4=E0C009B3C/21
2EE5=E1F009C7C//4 2EE6=E45009E1F//4 2EE7=E6D009E75/21 2EE8=E94009EA6//4 2EE9=EB3009EC4//4
2EEA=EE2009EFE//4 2EEB=F28009F4A/21 2EEC=F29009F50//4 2EED=F31009F52/21 2EEE=F32009F7F//4
2EEF=F57009F8D/21 2EF0=F58009F99//4 2EF1=F67009F9C/21 2EF2=F67009F9C/27 2FF0-2FFF=1F53 3001=3B
3002=99 3003=1E2 3004=1F8A 3005=1FA8 3006=443D//4+4453//4 3007=1FEC 3008-3011=1A1 3012-3013=1F8B
3014-301B=1AB 301C=23 301D=13E/29 301E=13E/2A 301F=13E/2B 3020=1F8D 3021-3029=1FED 302A-302F=/115
3030=24 3031=1FAD 3032=1FAD+/43 3033=1FAE 3034=1FAE+/43 3035=1FAF 3037=1F8E 303B=1FA9
303C=4450//4+443E//4 303D=1E3 303E-303F=1F8F 3041=4431//D 3042=4431//E 3043=4432//D 3044=4432//E
3045=4433//D 3046=4433//E 3047=4435//D 3048=4435//E 3049=4436//D 304A-304B=4436//E 304D=4438//E
304F=4439//E 3051=443A//E 3053=443B 3055=443C//E 3057=443D//E 3059=443E//E 305B=443F//E
305D=4440//E 305F=4441//E 3061=4442//E 3063=4443//D 3064=4443//E 3066=4444//E 3068=4445//E
306A-306F=4446//E 3072=444C//E 3075=444D//E 3078=444E//E 307B=444F//E 307E-3082=4450//E
3083=4455//D 3084=4455//E 3085=4457//D 3086=4457//E 3087=4459//D 3088-308D=4459//E 308E=445F//D
308F-3090=445F//E 3091-3093=4462//E 3095=4437//D 3096=443A//D 3099-309A=/43 309B-309C=2F4
309D=1FB0 30A0=25 30A1=4431//F 30A2=4431//11 30A3=4432//F 30A4=4432//11 30A5=4433//F 30A6=4433//11
30A7=4435//F 30A8=4435//11 30A9=4436//F 30AA-30AB=4436//11 30AD=4438//11 30AF=4439//11
30B1=443A//11 30B3=443B//11 30B5=443C//11 30B7=443D//11 30B9=443E//11 30BB=443F//11 30BD=4440//11
30BF=4441//11 30C1=4442//11 30C3=4443//F 30C4=4443//11 30C6=4444//11 30C8=4445//11
30CA-30CF=4446//11 30D2=444C//11 30D5=444D//11 30D8=444E//11 30DB=444F//11 30DE-30E2=4450//11
30E3=4455//F 30E4=4455//11 30E5=4457//F 30E6=4457//11 30E7=4459//F 30E8-30ED=4459//11 30EE=445F//F
30EF-30F0=445F//11 30F1-30F3=4462//11 30F5=4437//F 30F6=443A//F 30FB=26 30FC-30FD=1FB1
3105-3107=4584 3108=4588 3109-310B=458A 310C-310E=458E 310F-3111=4593 3112=4597 3113-3119=459A
311A-311B=45A4 311C-311D=45A7 311E-3124=45AA 3125=45B2 3126-3129=45B5 312A=4589 312B=4591
312C=4596 312D=45B9 312E=45A7//4 312F=458D 3190-3191=1F91 31A0=4584/21 31A1=459E/21 31A2=4594/21
31A3=458F/21 31A4=45A9 31A5=45A9/21 31A6=45A6 31A7=45A5/21 31A8=45B7/27 31A9=45A4/21
31AA-31AB=45B6/21 31AC=4587 31AD=4592 31AE=45AA/21 31AF=45AC/21 31B0-31B1=45B3 31B2=45B1
31B3=45B6/21/3 31B4=4585//19 31B5=458B//19 31B6=4590//19 31B7=4593//19 31B8-31BA=45A1
31BB=458F//19 31BC-31BD=4598 31BE-31BF=45BA 31C0-31E5=1F64 31EF=1F63 31F0=4439//F
31F1-31F2=443D//F 31F3=4445//F 31F4=4448//F 31F5-31F9=444B//F 31FA=4452//F 31FB-31FF=445A//F
3248=1FED//6+1FEC//6 3249=1FEE//6+1FEC//6 324A=1FEF//6+1FEC//6 324B=1FF0//6+1FEC//6
324C=1FF1//6+1FEC//6 324D=1FF2//6+1FEC//6 324E=1FF3//6+1FEC//6 324F=1FF4//6+1FEC//6 327F=1F93
4DC0-4DFF=114B A000-A48C=45BD A490-A4C6=11E2 A4D0-A4E9=4A51 A4EA=4A6D A4EB=4A6B A4EC=4A6E
A4ED=4A6C A4EE-A4F7=4A70 A4F8-A4FB=4A4B A4FC=4A50 A4FD=4A4F A4FE=37 A4FF=93 A500-A60C=3DD3 A60D=38
A60E=94 A60F=7E A610=3E2B//4 A611=3E3D//4 A612=3E5A//4 A613=3DDF//4+3EDE//4 A614=3DF1//4+3EDE//4
A615=3E06//4+3EDE//4 A616=3E1A//4+3EDF//4 A617=3E25//4+3EDE//4 A618=3E2B//4+3EDF//4
A619=3E2D//4+3EDF//4 A61A=3E33//4+3EDE//4 A61B=3E58//4+3EDE//4 A61C=3E87//4+3EDE//4
A61D=3E9E//4+3EDE//4 A61E=3EA4//4+3EDF//4 A61F=3EAB//4+3EDE//4 A620-A629=1FEC A62A=3E41//4
A62B=3EA4//4 A641=2429 A643=242C A645=242E A647=2436 A649=2439 A64B=246E A64D=247A A64F=248F
A651=2493 A653=2498 A655=249B A657=249C A659=24A1 A65B=24A3 A65D=24A5 A65F=24AB A661=247E
A663=241F A665=2449 A667=244E A669=2458//4 A66B=2458//4 A66D=2458//4 A66E=2458//4 A66F=/5D
A670-A672= A673=1C6 A674=2423//4 A675=2433//4 A676=2435//4+/37/4 A677=246B//4 A678=2492//4
A679-A67A=2494//4 A67B=2478//4 A67C=/3F A67D=/3F A67E=204 A67F=2491 A681=241D A683=2432 A685=2426
A687=2488 A689=2430 A68B=2469 A68D=2465 A68F=247F A691=2481 A693=2484 A695=2477 A697=248D
A699=2458//4 A69B=2458//4 A69E=2470//4 A69F=249F//4 A6A0-A6EF=3EE1 A6F0-A6F1=/C3 A6F2=F4 A6F3=95
A6F4=6B A6F5=39 A6F6=43 A6F7=7F A700-A721=335 A723=238D A725=2396 A727=225B A728=231D//A+2360//4
A729=231D//4+2360//4 A72B=2381 A72D=2382 A72F=2383 A730=223C A731=2308 A733=21F3//4+21F3//4
A735=21F3//4+22B5//4 A737=21F3//4+232B//4 A739=21F3//4+2343//4 A73A=21F3/21/8+2343//A
A73B=21F3/21+2343//4 A73D=21F3//4+2359//4 A73F=2215 A741=2278 A743=2279 A745=227A A747=2280
A749=2282 A74B=22CE A74D=22C9 A74F=22B5//4+22B5//4 A751=22D6 A753=22DA A755=22DB A757=22E1
A759=22E2 A75B=22E6/27 A75D=2306 A75F=2345 A761=2343//4+2359//4 A763=236A A765=2374 A767=2375
A769=2378 A76B=237C A76D=237D A76F=237E A771=2222 A772=2292 A773=22A2 A774=22B0 A775-A776=2304
A777=2328 A778=237F A77A=2216/27 A77C=223B/21 A77F=2250 A781=2295 A783=22E6/21 A785=2307/27
A787=231D/27 A788-A78A=357 A78C=238E A78E=228F A78F=238F A791=22AA A793-A794=220F A795=2256
A797=2207 A799=223E A79B=21F3//4+/37/4 A79D=22B5//4+/37/4 A79F=232B//4+/37/4 A7A1=2244//4+/41/4
A7A3=2273//4+/41/4 A7A5=22A3//4+/41/4 A7A7=22E6//4+/41/4 A7A9=2307//4+/41/4 A7AF=22E0 A7B5=220B
A7B7=22D0 A7B9=2335 A7BB=21F7 A7BD=2269 A7BF=2339 A7C0=21F3//A+/3D A7C1=21F3//4+/3D A7C3=234C/21
A7C8=2219 A7CA=2309 A7CD=230A A7CF=2391 A7D1=2245 A7D3=2373 A7D5=2377 A7D7=2311 A7D9=2307/2A
A7DB=2296 A7F6=225A A7F7=2263 A7F8=2253//14+/45/14 A7FA=233E A7FB=2243 A7FC=22DC A7FD=22A0
A7FE=2262 A7FF=22A1 A800-A806=2C85 A807-A80A=2C8D A80B=/D1 A80C-A827=2C91 A828-A82B=3E0 A82C=2C8C
A830-A835=2005 A836-A837=3E4 A838=1FC1 A839=3E6 A840-A847=3475 A848-A853=3481 A854-A857=348E
A858=3494 A859-A85A=3497 A85B-A85C=349A A85D=349E A85E-A861=34A3 A862-A865=349F A866=34A7
A867=348D A868=3492 A869-A86C=347D A86D=3493 A86E=3499 A86F-A870=349C A871-A872=3495 A873=34A8
A874-A875=27D A876-A877=A3 A880-A881=/D1 A882-A8C4=2CAE A8C5=/D0 A8CE-A8CF=9F A8D0-A8D9=1FEC
A8E0-A8F1= A8F2=29BF A8F3=29BF//4 A8F4=29BF//4 A8F5=29BF//4 A8F6=29BF//4 A8F7=29BF//4
A8F8-A8FA=220 A8FB=29C0 A8FC=223 A8FD=2976 A8FE=298C A8FF=29D5 A900-A909=1FEC A90A-A92A=35AD
A92B-A92D=/F4 A92E=283 A92F=A7 A930-A953=3588 A95F=F5 A960-A97C=432A A980-A981=/D0 A982=/D7
A983=/D2 A984-A9AA=389F A9AB=38C7 A9AC=38C7//4 A9AD-A9B2=38C9 A9B3=/CF A9B4=38CF A9B5=38CF//4
A9B6-A9B9=38D1 A9BA-A9BB=38D6 A9BC=38D0 A9BD=38D5 A9BE=38C6 A9BF=38C8 A9C0=38D8 A9C1-A9C6=EA
A9C7=67 A9C8-A9C9=B4 A9CA-A9CD=F0 A9CF=1F9C A9D0-A9D9=1FEC A9DE-A9DF=284 A9E0=35D8 A9E1=35E0
A9E2=35EA A9E3=3600 A9E4=3619 A9E5=3664 A9E6=1F9D A9E7=35F2 A9E8=3614 A9E9=35D6 A9EA=35D9
A9EB=35E5 A9EC=35EC A9ED=35FA A9EE=35FD A9EF=3601 A9F0-A9F9=1FEC A9FA=3635 A9FB=3606 A9FC=3609
A9FD=3617 A9FE=361A AA00-AA28=3812 AA29-AA32=383F AA33-AA36=383B AA40-AA4D=3849 AA50-AA59=1FEC
AA5C=286 AA5D-AA5F=B6 AA60=35D5 AA61=35DE AA62=35E1 AA63=35E4 AA64=35EB AA65=35F1 AA66=35F5
AA67=35F7 AA68=35F9 AA69=35FC AA6A=3608 AA6B=360C AA6C=362D AA6D=3630 AA6E=3632 AA6F=3612
AA70=1F9E AA71=3633 AA72=35E7 AA73=3620 AA74-AA76=367B AA77-AA79=40F AA7A=3621 AA7B-AA7D=3678
AA7E=35E2 AA7F=35EE AA80-AABE=32E5 AABF=/F1 AAC0=3324 AAC1=/F2 AAC2=3325 AADB-AADC=3326 AADD=1F9F
AADE-AADF=237 AAE0-AAEA=2C61 AAEB-AAEF=2C74 AAF0=B9 AAF1=80 AAF2=2C45 AAF3-AAF4=1FA0 AAF5=2C79
AAF6=2C83 AB01-AB06=27D5 AB09-AB0E=28A8 AB11-AB16=2889 AB20-AB26=28EE AB28-AB2E=2906 AB30=21FD
AB31=21FA AB32-AB33=2226 AB34=222A AB35=223D AB36=2248 AB37=228B AB38-AB39=2286 AB3A=229F
AB3B=22AF AB3C=22B2 AB3D=22B8 AB3E=22C1 AB3F=22C6 AB40=22BD AB41-AB42=22BB AB43-AB44=22BE
AB45=22E7 AB46=22E9 AB47-AB48=22FC AB49=22F7 AB4A-AB4C=22FE AB4D=2315 AB4E=232D AB4F=2334
AB50-AB51=2331 AB52=2338 AB53-AB55=2356 AB56-AB59=2352 AB5A=235E AB5B=35A AB60-AB61=2379 AB62=22C8
AB63=237B AB64=2200 AB65=23CF AB66=2216//4+2366//4 AB67=231D//4+230D//4 AB68=2302 AB6A-AB6B=30B
AB70-ABBF=39E1 ABC0-ABDA=2C46 ABDB-ABE2=2C7A ABE3-ABEA=2C6C ABEB=BA ABEC=/D9 ABED=2C82
ABF0-ABF9=1FEC D7B0-D7C6=4390 D7CB-D7FB=43FF FB05=2307/24+231D//4 FB1E=/6D FBB2-FBC2=3A9
FBC3-FBD2=373 FBDD=25D2//1A+26A5//1A FC5E=/7C/1A+/8C/1A FC5F=/7F/1A+/8C/1A FC60=/82/1A+/8C/1A
FC61=/86/1A+/8C/1A FC62=/89/1A+/8C/1A FC63=/8C/1A+/A4/1A FD3E-FD3F=1B3 FD40-FD4F=383 FD90-FD91=393
FDC8-FDCF=395 FDFD-FDFF=39D FE00-FE0F= FE20=/5B FE21= FE22=/5A FE23-FE26= FE27=/40 FE28= FE29=/5A
FE2A-FE2D= FE2E=/5C FE2F= FE45-FE46=3C FE49=D//4 FE4A=D//4 FE4B=D//4 FE4C=D//4 FE70=/79/1A
FE72=/7C/1A FE73= FE74=/7F/1A FE76=/82/1A FE78=/86/1A FE7A=/89/1A FE7C=/8C/1A FE7E=/8D/1A FEFF=
FFE3=2E9//3 FFF9-FFFB= FFFC=1F94 FFFD=2000000000 FFFE=1 FFFF=2000000001 10000-1000B=4FED
1000D-10026=4FF9 10028-1003A=5013 1003C-1003D=5026 1003F-1004D=5028 10050-1005D=5037
10080-100FA=5045 10100-10102=12E 10107-1010F=1FED 10110-10133=2061 10137-1013F=1219
10140-10141=2085 10142=1FED 10143=1FF1 10144-10147=2087 10148=1FF1 10149-1014E=208B 1014F=1FF1
10150-10157=2091 10158=1FED 10159=1FED 1015A-1015B=1FED 1015C=1FEE 1015D=1FEE 1015E=1FEE
1015F=1FF1 10160-10172=2099 10173=1FF1 10174-10178=20AC 10179-10189=1222 1018A=1FEC 1018B=20B1
1018C-1018E=1233 10190-1019C=1236 101A0=1243 101D0-101FC=1244 101FD=/40 10280-1029C=4C61
102A0-102D0=4C7F 102E0= 102E1-102E9=1FED 102EA-102FB=20B2 10300-1030E=4CE7 1030F-1031E=4CF7
1031F=4CF6 10320=1FED 10321=1FF1 10322-10323=205B 1032D-1032F=4D07 10330-1034A=4D0B
10350-10375=24E1 10376=24E1//4 10377=24E4//4 10378=24E8//4 10379=24EE//4 1037A=24F2//4
10380-1039D=5478 1039F=131 103A0-103C3=5497 103C8-103CF=54BB 103D0=132 103D1-103D2=1FED
103D3-103D5=20C4 10428-1044F=4D27 10450-1047F=4D50 10480-1049D=4E0D 104A0-104A9=1FEC
104D8-104FB=3A38 10500-10527=4E2C 10530-10563=4E55 1056F=287 10597-105A1=4E8A 105A3-105B1=4E95
105B3-105B9=4EA4 105BB-105BC=4EAB 105C0-105C8=4EAE 105CA-105E3=4EB8 105E5-105F3=4ED3
10600-10736=50C1 10740-10755=51F8 10760-10767=520E 10780=21F3//14+21F3//14 10800-10805=5217
10808=521D 1080A-10835=521E 10837-10838=524A 1083C=524C 1083F=524D 10840-10855=5367 10857=F6
10858-1085A=1FED 1085B-1085F=20D5 10860-1086C=5323 1086D=5330//19 1086E-10876=5330
10877-10878=1271 10879-1087D=1FED 1087E-1087F=20C7 10880=533A//19 10881=533A 10882=533B//19
10883-10885=533B 10886=533E//19 10887-1088B=533E 1088C=5343//19 1088D=5343 1088E=5344//19
1088F=5344 10890=5345//19 10891=5345 10892=5346//19 10893=5346 10894=5347//19 10895-1089B=5347
1089C=534E//19 1089D-1089E=534E 108A7-108AA=1FED 108AB-108AC=1FF0 108AD-108AF=20C9
108E0-108F2=5351 108F4-108F5=5364 108FB=1FED 108FC=1FF1 108FD-108FF=20CC 10900-10915=25A0
10916=1FED 10917-10919=20D2 1091A-1091B=1FEE 1091F=133 10920-10939=4CB1 1093F=12D 10940-10959=4CCC
10980-10986=6CF5/21 10987=6CFB/27 10988-1098A=6CFC/21 1098B=6CFE/27 1098C=6CFF/21 1098D=6CFF/27
1098E=6D00/21 1098F=6D00/27 10990-10992=6D01/21 10993=6D04/25 10994=6D04/29 10995-10998=6D05/21
10999=6D08/27 1099A=6D09/21 1099B=6D09/27 1099C-1099D=6D0A/21 1099E-1099F=6D0E 109A0-109AF=6CF5
109B0=6D04/21 109B1-109B7=6D05 109BC=21D7 109BD=21CC 109BE-109BF=6D0C 109C0-109C8=1FED
109C9-109CF=21A1 109D2-109F5=21A8 109F6-109FF=21CD 10A00-10A03=31FA 10A05-10A06=31FE 10A0C=3200
10A0D=/40 10A0E-10A0F=/D1 10A10=3201 10A11-10A13=3203 10A15-10A17=3206 10A19-10A1A=3209 10A1B=320C
10A1C-10A2C=320E 10A2D-10A31=3220 10A32=3202 10A33=320D 10A34=320B 10A35=321F 10A38-10A3A=/DA
10A3F=3225 10A40-10A43=1FED 10A44-10A48=2100 10A50-10A55=28D 10A56-10A57=BB 10A58=293
10A60-10A7C=52B1 10A7D=1FED 10A7E=20CF 10A7F=298 10A80-10A9C=52CF 10A9D=1FED 10A9E-10A9F=20D0
10AC0-10AC7=53D3 10AC8=53DA/21 10AC9-10AE4=53DB 10AE5-10AE6=/3F 10AEB=1FED 10AEC=1FF1
10AED-10AEF=20DA 10AF0-10AF6=299 10B00-10B2D=52ED 10B2E=531A/21 10B2F-10B35=531B 10B39=297
10B3A-10B3F=F7 10B40-10B55=537E 10B58-10B5B=1FED 10B5C-10B5F=20DD 10B60-10B72=5395
10B78-10B7B=1FED 10B7C-10B7F=20E1 10B80-10B91=53A9 10B99-10B9C=2A0 10BA9-10BAC=1FED
10BAD-10BAF=20E5 10C00=3DA5 10C01=3DA5/21 10C02-10C03=3DA6 10C04=3DA7/21 10C05-10C07=3DA8
10C08=3DAA/21 10C09=3DAB 10C0A=3DAB/21 10C0B=3DAC 10C0C=3DAC/21 10C0D=3DAD 10C0E=3DAD/21
10C0F=3DAE 10C10=3DAE/21 10C11=3DAF 10C12=3DAF/21 10C13-10C14=3DB0 10C15=3DB1/21 10C16=3DB2
10C17=3DB2/21 10C18=3DB3 10C19=3DB3/21 10C1A=3DB4 10C1B=3DB4/21 10C1C=3DB5 10C1D=3DB5/21
10C1E=3DB6 10C1F=3DB6/21 10C20-10C24=3DB7 10C25=3DBB/21 10C26=3DBC 10C27=3DBC/21 10C28=3DBD
10C29=3DBD/21 10C2A=3DBE 10C2B=3DBE/21 10C2C-10C2D=3DBF 10C2E=3DC0/21 10C2F-10C32=3DC1
10C33=3DC4/21 10C34=3DC5 10C35=3DC5/21 10C36=3DC6 10C37=3DC6/21 10C38=3DC7 10C39=3DC7/21
10C3A=3DC8 10C3B=3DC8/21 10C3C-10C3F=3DC9 10C40=3DCC/21 10C41=3DCD 10C42=3DCD/21 10C43=3DCE
10C44=3DCE/21 10C45=3DCF 10C46=3DCF/21 10C47-10C48=3DD0 10CC0=3D7B 10CC1=3D7B/21 10CC2-10CC9=3D7C
10CCA=3D83/21 10CCB=3D83/27 10CCC-10CD0=3D84 10CD1=3D88/21 10CD2-10CDB=3D89 10CDC=3D92/21
10CDD=3D93 10CDE=3D93/21 10CDF=3D93/27 10CE0-10CE2=3D94 10CE3=3D96/21 10CE4-10CEA=3D97
10CEB=3D9D/21 10CEC=3D9E 10CED=3D9E/21 10CEE-10CF2=3D9F 10CFA=1FED 10CFB=1FF1 10CFC-10CFF=205D
10D00=367F 10D01-10D1C=3685 10D1D-10D21=3680 10D22-10D23=36A1 10D24=/3F 10D25=/3F 10D26=/3F
10D27=/3F 10D30-10D39=1FEC 10D40-10D49=1FEC 10D4A-10D4F=428B 10D53=4295//4 10D61=42A3//4
10D64=4295//5 10D65=42A3//5 10D69=4291 10D6A=/E0 10D6B=/3F 10D6C=/CF 10D6D=/3F 10D6E=16 10D6F=1FA2
10D70-10D83=4292 10D84=4295//3 10D85=42A3//3 10D8E=4DB 10D8F=4E8 10E60-10E68=1FED 10E69-10E7E=2044
10E80-10EA0=5435 10EA1-10EA8=5457 10EA9=5460 10EAB=/8F 10EAC=/8E 10EAD=27 10EB0=5456 10EB1=545F
10EC2=2620 10EC3=264D 10EC4=2673 10EC5=26B0//4 10EC6=268F/21 10EC7=26B6 10ED0=DD 10ED1-10ED8=3A0
10EFA=/A5 10EFB= 10EFC=/A4 10EFD-10EFF= 10F00=53F8 10F01=53F8//19 10F02=53F9 10F03=53F9//19
10F04-10F05=53FA 10F06=53FB//19 10F07-10F0E=53FC 10F0F=5403//19 10F10=5403/21 10F11-10F12=5404
10F13=5405/21 10F14-10F15=5406 10F16=5407//19 10F17=5407/21 10F18-10F1A=5408 10F1B=540A//19
10F1C=540A/21 10F1D-10F21=1FED 10F22-10F26=20E8 10F27=5405//4+5408//4 10F30-10F44=540C
10F45=541D/21 10F46=/40 10F47=/40 10F48=/3F 10F49=/3F 10F4A-10F4B=/3F 10F4C-10F4D=/3F 10F4E=/40
10F4F=/40 10F50=/40 10F51=1FED 10F52-10F54=20ED 10F55-10F59=FD 10F70-10F81=5422 10F82-10F83=/3F
10F84-10F85=/3F 10F86-10F89=102 10FB0-10FC4=5462 10FC5-10FC8=1FED 10FC9-10FCB=20F0
10FE0-10FF5=53BC 10FF6=53C2//4+53C5//4 11000-11002=/D0 11003-11004=31DF 11005-1100E=31AE
1100F-11010=31B9 11011-11033=31BC 11034-11035=31E1 11036-11041=31E4 11042-11043=31F1
11044-11046=31F4 11047-11048=BD 11049-1104D=288 11052-1105A=1FED 1105B-11065=20F5 11066-1106F=1FEC
11070=31F8 11071=31B8 11072=31BB 11073=31F0 11074=31F3 11075=31E3 1107F=31F7 11080-11082=/D0
11083-11099=2CF2 1109B=2D09 1109D-110AA=2D0A 110AC-110B4=2D18 110B5-110B9=2D22 110BA=/CF
110BB-110BC=2A4 110BD= 110BE-110BF=106 110C0-110C1=BF 110C2=2D21 110CD= 110D0-110E8=4EE3
110F0-110F9=1FEC 11100-11102=/D0 11103-11123=36A4 11124-11126=36C6 11127-1112D=36CA
11130-11132=36D3 11133-11134=36D8 11136-1113F=1FEC 11140=108 11141-11142=C1 11143=81 11144=36C9
11145-11146=36D6 11147=36C5 11150-1116F=2D28 11170-11172=2D49 11173=/CF 11174-11175=2A6 11176=2D48
11180-11182=/D0 11183-111B2=2D4F 111B3-111BC=2D83 111BD-111BF=2D8E 111C0=2D99 111C1-111C3=2D7F
111C4=2D4D 111C5-111C6=C3 111C7=2A9 111C8=109 111C9=/D3 111CA=/CF 111CB-111CC=/DD 111CD=2A8
111CE=2D8D 111CF=/D0 111D0-111D9=1FEC 111DA=2D4E 111DB=2AA 111DC=2D82 111DD=2AB 111DE-111DF=10A
111E1-111E9=1FED 111EA-111F4=210F 11200-11201=2D9B 11202-11208=2D9E 11209-11211=2DA6
11213-1122F=2DAF 11230-11233=2DCD 11234=/D1 11235=2DD1 11236=/CF 11237=/8C 11238-11239=C5
1123A-1123D=2AC 1123E=/8D 1123F=2DA5 11240=2D9D 11241=2DCC 11280-11283=2E0D 11284-11286=2E13
11288=2E16 1128A-1128D=2E17 1128F-1129D=2E1B 1129F-112A4=2E2A 112A5-112A6=2E11 112A7-112A8=2E30
112A9=10C 112B0-112DE=2DD3 112DF=/D1 112E0-112E8=2E02 112E9=/CF 112EA=2E0B 112F0-112F9=1FEC
11300=/D1 11301-11303=/D0 11305-1130B=2E34 1130C=2E3C 1130F-11310=2E3E 11313-11328=2E40
1132A-11330=2E56 11332-11333=2E5D 11335-11339=2E5F 1133B=/CF 1133C=/CF 1133D=2E64 1133E-11344=2E67
11347-11348=2E70 1134D=2E74 11350=2E33 11357=2E75 1135D=2E76 1135E-1135F=2E65 11360=2E3B
11361=2E3D 11362-11363=2E6E 11366-1136C= 11370-11374= 11380-11382=2E78 11384=2E7C 11386-11389=2E7E
1138B=2E82 11390=2E84 11392-113AC=2E86 113AD-113B2=2EA2 113B3=2EA9 113B4=2EA8 113B5=2EAA
113B7-113C0=2EAB 113C2=2EB5 113C9=2EBB 113CA=/D0 113CC-113CD=/D1 113CE=2EB9 113CF=2EB9//3
113D0=2EBA 113D1=2EA1 113D2=/E1 113D3=2EBC 113D4-113D5=C7 113D7-113D8=2B0 113E1-113E2=
11400-11434=2EC0 11435-11442=2EFA 11443-11445=/D0 11446=/CF 11447=2EF5 11448=2EF8 11449-1144A=2EBE
1144B-1144C=C9 1144D=2B2 1144E-1144F=2B4 11450-11459=1FEC 1145A=2B3 1145B=2B6 1145D=2B7 1145E=/D3
1145F=2EF9 11460-11461=2EF6 11480-114AF=2F0A 114B0-114BA=2F3C 114BD=2F49 114BF-114C1=/D0
114C2=2F4B 114C3=/CF 114C4-114C5=2F3A 114C6=2B8 114C7=2F09 114D0-114D9=1FEC 11580-115B5=2F4D
115B8-115B9=2F83 115BC-115BE=/D0 115BF=2F87 115C0=/CF 115C1=2B9 115C2-115C3=CB 115C4-115D7=2BA
115D8=2F4F/21 115D9=2F4F/27 115DA-115DB=2F50/21 115DC-115DD=2F7F/21 11600-1163C=2F89
1163D-1163E=/D1 1163F=2FC6 11640=/D0 11641-11642=CD 11643=2CE 11644=2FC7 11650-11659=1FEC
11660-1166C=212 11680-11689=2FC9 1168A-1168B=2FD6 1168C-116A6=2FD9 116A7=2FD4 116A8=2FD3
116A9=2FD5 116AA=2FF4 116AB-116AC=/D1 116AD-116B6=2FF5 116B7=/CF 116B8=2FD8 116B9=2CF
116C0-116C9=1FEC 116D0-116D9=1FEC 116DA-116E3=1FEC 11700-11704=30B1 11705=30B5/21 11706-11715=30B6
11716=30C5/21 11717-11719=30C6 1171A=30B8/21 1171D-1171F=30DC 11720-1172B=30D0 11730-11739=1FEC
1173A-1173B=20F3 1173C-1173D=CF 1173E=10D 1173F=412 11740-11746=30C9 11800-11836=3078
11837-11838=/D1 11839=30AF 1183A=/CF 1183B=2D0 118C0-118DF=4B0E 118E0-118E9=1FEC 118EA-118F2=211A
118FF=4B0D 11900-11906=3000 11909=3007 1190C-11910=3008 11911-11913=300E 11915-11916=3011
11918-11925=3013 11926=3022 11927=3024 11928-11935=3026 11937=3034 1193B=/D1 1193C=/D0
1193D-1193E=3036 1193F=300D 11940=3021 11941=3023 11942=3025 11943=/CF 11944=D1 11945=2D1
11946=10E 11950-11959=1FEC 119A0-119A7=3039 119AA-119D0=3041 119D1-119D7=306A 119DA=3071
119DB-119DD=3073 119DE-119DF=/D1 119E0=3076 119E1=3068 119E2=2D2 119E3=3069 119E4=3072
11A00-11A0A=33B2 11A0B=338A 11A0C-11A31=338C 11A32=338B 11A33=/CF 11A34=33BD 11A35=/D0 11A36=/D0
11A37-11A39=/D0 11A3A=33AB//17 11A3B-11A3E=33AA//19 11A3F-11A46=24F 11A47=33BE 11A50-11A53=33C0
11A54=33C6 11A55=33C8 11A56=33C7 11A57-11A58=33C9 11A59-11A5A=33C4 11A5B-11A5C=33CB
11A5D-11A82=33CE 11A83=33CD 11A84-11A85=33F4 11A86-11A87=33ED//17 11A88=33F0//17 11A89=33F2//17
11A8A=33CC//19 11A8B=33CE//19 11A8C=33D1//19 11A8D=33DC//19 11A8E-11A8F=33E0//19 11A90=33E5//19
11A91-11A92=33ED//19 11A93=33F0//19 11A94=33F2//19 11A95=33EB//19 11A96-11A97=/D1 11A98=/DF
11A99=33F6 11A9A-11A9C=257 11A9D=33F7 11A9E-11AA2=25A 11AB0-11ABF=3D20 11AC0-11AD4=4B36
11AD5-11ADB=4B2F 11ADC-11ADD=4B4B 11ADE=4B52 11ADF-11AE3=4B4D 11AE4=4B53 11AE5=4B59 11AE6=4B57
11AE7=4B65 11AE8=4B5A 11AE9=4B58 11AEA=4B66 11AEB=4B61 11AEC=4B5F 11AED=4B62 11AEE=4B60 11AEF=4B54
11AF0=4B67 11AF1=4B56 11AF2=4B55 11AF3=4B5D 11AF4=4B5B 11AF5=4B63 11AF6=4B5E 11AF7=4B5C 11AF8=4B64
11B00-11B09=224 11B60-11B67=2D91 11BC0-11BE0=4F6D 11BE1=2D3 11BF0-11BF9=1FEC 11C00-11C08=3227
11C0A-11C2E=3230 11C2F-11C36=3256 11C38-11C3B=325E 11C3C-11C3E=/D0 11C3F=3262 11C40=3255
11C41-11C42=D2 11C43-11C45=294 11C50-11C59=1FEC 11C5A-11C62=1FED 11C63-11C6C=2105 11C70-11C71=25F
11C72=33F9 11C73=33FB 11C74=33FD 11C75=33FF 11C76=3401 11C77=3403 11C78=3405 11C79=3407 11C7A=3409
11C7B=340B 11C7C=340D 11C7D=340F 11C7E=3411 11C7F=3413 11C80=3415 11C81=3417 11C82=3419 11C83=341B
11C84=341D 11C85=341F 11C86=3421 11C87=3423 11C88-11C89=3425 11C8A=3428 11C8B=342A 11C8C=342C
11C8D=342E 11C8E=3430 11C8F=3432 11C92=33FA 11C93=33FC 11C94=33FE 11C95=3400 11C96=3402 11C97=3404
11C98=3406 11C99=3408 11C9A=340A 11C9B=340C 11C9C=340E 11C9D=3410 11C9E=3412 11C9F=3414 11CA0=3416
11CA1=3418 11CA2=341A 11CA3=341C 11CA4=341E 11CA5=3420 11CA6=3422 11CA7=3424 11CA9=3427 11CAA=3429
11CAB=342B 11CAC=342D 11CAD=342F 11CAE=3431 11CAF-11CB4=3433 11CB5=/D1 11CB6=/D0 11D00-11D06=30E0
11D08-11D09=30E7 11D0B-11D36=30E9 11D3A=3115 11D3C-11D3D=3116 11D3F=3118 11D40-11D41=/D1
11D42-11D43=/CF 11D44-11D45=3119 11D46=3104//17 11D47=3104//19 11D50-11D59=1FEC 11D60-11D65=311D
11D67-11D68=3123 11D6A-11D8E=3125 11D90-11D91=314A 11D93-11D94=314C 11D95-11D96=/D1 11D97=314E
11D98=311C 11DA0-11DA9=1FEC 11DB0-11DD8=3150 11DD9-11DDA=317A 11DDB=3179 11DE0-11DE9=1FEC
11EE0-11EF6=3550 11EF7-11EF8=10F 11F00-11F01=/D0 11F02=3902 11F03=/D2 11F04-11F10=38DA
11F12-11F2C=38E7 11F2D-11F3A=3903 11F3E-11F42=3911 11F43-11F44=D4 11F45-11F4F=111 11F50-11F59=1FEC
11F5A=/CF 11FB0=4A6F 11FC0-11FD4=200E 11FD5-11FDC=3C4 11FDD-11FE0=1FC3 11FE1-11FF1=3CC 11FFF=2D4
12000-12262=54C4 12263-122D3=5729 122D4-122D5=5727 122D6-12399=579A 12400-12407=1FEE
12408-1240E=1FEF 1240F-12414=1FF0 12415-1241D=1FED 1241E-12422=1FED 12423-12424=1FEE
12425-1242B=1FEF 1242C-1242E=1FED 1242F-12431=1FEF 12432-12433=21D8 12434-12436=1FED
12437-12439=1FEF 1243A=1FEF 1243B-1243C=1FEF 1243D=1FF0 1243E=1FF0 1243F=1FF0 12440-12441=1FF2
12442=1FF3 12443-12444=1FF3 12445-12446=1FF4 12447=1FF5 12448=1FF5 12449=1FF5 1244A-1244E=1FEE
1244F-12452=1FED 12453-12454=1FF0 12455=1FF1 12456-12457=1FEE 12458-12459=1FED 1245A-12468=21DA
12469-1246E=1FF0 12470-12474=134 12480-12543=585E 12F90-12FF0=524F 12FF1-12FF2=139
13000-1342F=5923 13430-13440= 13441-13446=6CEE 13447-13455= 13460-143FA=5D53 14400-14646=6D11
16100-16120=4F8F 16129-1612C=4FB8 1612D=/D1 1612E-1612F=4FBC 16130-16139=1FEC 16800-16A38=3F31
16A40-16A5E=4EFD 16A60-16A69=1FEC 16A6E-16A6F=D6 16A70-16ABE=4F1D 16AC0-16AC9=1FEC
16AD0-16AED=416B 16AF0-16AF4=/C5 16AF5=96 16B00-16B2F=4B69 16B30-16B36=/106 16B37-16B3B=2D5
16B3C-16B3F=1273 16B40-16B41=4B99 16B42-16B43=1FA3 16B44=2DA 16B45=1277 16B50-16B59=1FEC
16B5B-16B61=2123 16B63-16B77=4B9B 16B7D-16B8F=4BB0 16D40-16D67=4FBF 16D6B-16D6C=4FEA 16D6D=2DB
16D6E-16D6F=D8 16D70-16D79=1FEC 16E60-16E7F=4250 16E80-16E89=1FEC 16E8A-16E93=212A
16E94-16E96=1FED/21 16E97=3A 16E98=97 16E99-16E9A=2DC 16EBB-16ED3=4271 16F00-16F03=4A7B
16F04-16F05=4A80 16F06=4A80//4 16F07-16F0D=4A82 16F0E-16F0F=4A8A 16F10-16F12=4A8D 16F13=4A8D//4
16F14-16F24=4A90 16F25=4A9F//4 16F26-16F32=4AA1 16F33=4AAF 16F34-16F39=4AB1 16F3A-16F3E=4AB8
16F3F=4ABB//4 16F40-16F44=4ABD 16F45=4A7F 16F46=4AB0 16F47=4AAE 16F48=4A89 16F49=4AB7 16F4A=4A8C
16F4F=4AC6 16F50-16F53=4AC2 16F54-16F58=4AC7 16F59-16F5C=4ACD 16F5D-16F60=4AD2 16F61-16F65=4AD7
16F66-16F6D=4ADD 16F6E-16F72=4AE7 16F73-16F74=4AED 16F75-16F7E=4AF1 16F7F=4AE5 16F80=4AEC
16F81=4ACC 16F82=4AF0 16F83=4AD1 16F84=4AD6 16F85=4AEF 16F86=4ADC 16F87=4AE6 16F8F-16F9F=4AFB
16FE0-16FE1=1FAA 16FE2=3E 16FE3=1FAC 16FE4= 16FF0-16FF1=/11B 16FF2=9900513F//4 16FF3=9D005152
16FF4-16FF6=1FF6 17000-187FF=6F59 18800-18AFF=8778 18B00-18CD5=8C79 18CFF=8E4F 18D00-18D1E=8759
18D80-18DF2=8A78 1AFF0-1AFF3=35B 1AFF5-1AFFB=35F 1AFFD-1AFFE=366 1B000=4434//11 1B001=4472
1B002-1B00E=4465 1B00F-1B11E=4473 1B11F=4461 1B120=4456 1B121=4458 1B122=4461//3 1B132=443B//1
1B150=4460//D 1B151-1B152=4462//D 1B155=443B//3 1B164=4460//F 1B165-1B167=4462//F 1B170-1B2FB=8AEC
1BC00-1BC6A=4D81 1BC70-1BC7C=4DEC 1BC80-1BC88=4DF9 1BC90-1BC99=4E02 1BC9C=14DF 1BC9D=/3F 1BC9E=/41
1BC9F=98 1BCA0-1BCA3= 1CC00-1CCD5=7E2 1CCFA-1CCFC=8B8 1CD00-1CEB3=8BB 1CEBA-1CED0=A6F
1CEE0-1CEF0=A86 1CF00-1CF2D= 1CF30-1CF46= 1CF50-1CFC3=1279 1D000-1D0F5=12ED 1D100-1D126=13E3
1D129=141D 1D12A-1D139=140D 1D13A-1D15D=141E 1D165-1D169= 1D16A-1D16C=1442 1D16D-1D182=
1D183-1D184=1445 1D185-1D18B= 1D18C-1D1A9=1447 1D1AA-1D1AD= 1D1AE-1D1BA=1465 1D1C1-1D1EA=1472
1D200-1D241=149C 1D242-1D244= 1D245=14DE 1D2C0-1D2C9=1FEC 1D2CA-1D2D3=2134 1D2E0-1D2E9=1FEC
1D2EA-1D2F3=213E 1D300-1D356=118B 1D360-1D368=1FED 1D369-1D371=21E9 1D372-1D376=1FED 1D377=1FED
1D378=1FF1 1D800-1D9FF=1D37 1DA00-1DA36= 1DA37-1DA3A=1F37 1DA3B-1DA6C= 1DA6D-1DA74=1F3B 1DA75=
1DA76-1DA83=1F43 1DA84= 1DA85-1DA86=1F51 1DA87-1DA8B=2DE 1DA9B-1DA9F= 1DAA1-1DAAF=
1DF00=223B/27+22B1//4 1DF01=2247 1DF02=224F 1DF03=227B 1DF04=2289 1DF05=2294 1DF06=2299 1DF07=22B4
1DF08=22F0 1DF09=2326 1DF0A=239F 1DF0B-1DF0C=231B 1DF0D=232A 1DF0E=239A 1DF0F=23A1 1DF10=227D
1DF11=2290 1DF12=2216//4+236E//3 1DF13=228A 1DF14=22B3 1DF15=2303 1DF16=22FA 1DF17=231D//4+2316//3
1DF18=236E 1DF19=2216//4+236F//3 1DF1A=2267 1DF1B=22C2 1DF1C=231D//4+2317//3 1DF1D=2211 1DF1E=230F
1DF25=221E 1DF26=228E 1DF27=22AD 1DF28=22F6 1DF29=230E 1DF2A=2325 1E000-1E006=24B0//4
1E008-1E018=24B8//4 1E01B-1E021=24CB//4 1E023-1E024=24D3//4 1E026-1E02A=24D6//4 1E067=2416/21/1
1E08F=2435//4 1E100-1E12C=4BC4 1E130=/10A 1E131=/106 1E132-1E133=/108 1E134-1E135=/10B 1E136=/107
1E137-1E13B=4BF1 1E13C-1E13D=1FA5 1E140-1E149=1FEC 1E14E=4BF6 1E14F=1278 1E290-1E2AD=4BF8
1E2AE=/3F 1E2C0-1E2EB=4C17 1E2EC-1E2EF=/10D 1E2F0-1E2F9=1FEC 1E2FF=1FC9 1E4D0-1E4EB=4C44
1E4EC-1E4EF=/111 1E4F0-1E4F9=1FEC 1E5D0-1E5ED=39C1 1E5EE-1E5EF=/3F 1E5F0=39DF 1E5F1-1E5FA=1FEC
1E5FF=2E3 1E6C0-1E6DE=37DB 1E6E0-1E6F5=37FA 1E6FE=3810 1E6FF=1FA7 1E7E0=295F 1E7E1=2961 1E7E2=2963
1E7E3=2965 1E7E4=2967 1E7E5=2969 1E7E6=296B 1E7E8=2868 1E7E9=286A 1E7EA=286D 1E7EB=286F 1E7ED=27B5
1E7EE=27B7 1E7F0=27ED 1E7F1=27F0 1E7F2=27F2 1E7F3=2809 1E7F4=280B 1E7F5=285A 1E7F6=285D 1E7F7=285F
1E7F8=28C9 1E7F9=28CC 1E7FA=28CE 1E7FB=291E 1E7FC=2920 1E7FD=292C 1E7FE=292E 1E800-1E8C4=418A
1E8C7-1E8CF=1FED 1E8D0-1E8D6= 1E922-1E943=42A7 1E944=/CA 1E945=/CA 1E946=/CA 1E947-1E949=/CC
1E94A=/CB 1E94B=42C9 1E950-1E959=1FEC 1E95E=72 1E95F=82 1EC71-1EC79=1FED 1EC7A-1ECA2=2148
1ECA3-1ECAB=1FED 1ECAC=14E0 1ECAD-1ECAF=2171 1ECB0=1FE2 1ECB1-1ECB2=1FED/21 1ECB3-1ECB4=2174
1ED01-1ED09=1FED 1ED0A-1ED2D=2176 1ED2E=14E1 1ED2F=1FEE/21 1ED30=1FEF/21/3 1ED31-1ED36=1FF0/21
1ED37-1ED3D=219A 1EEF0-1EEF1=36D 1F000-1F02B=14E2 1F030-1F093=150E 1F0A0-1F0AE=1572
1F0B1-1F0BF=1581 1F0C1-1F0CF=1590 1F0D1-1F0F5=159F 1F10B=1FEC//6 1F10C=1FEC//6 1F10D-1F10F=162A
1F12F=447 1F150=21F3//C 1F151=2201//C 1F152=220C//C 1F153=2216//C 1F154=2224//C 1F155=223B//C
1F156=2244//C 1F157=2253//C 1F158=225F//C 1F159=226C//C 1F15A=2273//C 1F15B=227E//C 1F15C=229A//C
1F15D=22A3//C 1F15E=22B5//C 1F15F=22D3//C 1F160=22DF//C 1F161=22E6//C 1F162=2307//C 1F163=231D//C
1F164=232B//C 1F165=2343//C 1F166=234C//C 1F167=2350//C 1F168=2359//C 1F169=2360//C
1F16A=229A//14+220C//14 1F16B=229A//14+2216//14 1F16C=229A//14+22E6//14 1F16D-1F16F=162D
1F170=21F3//1D 1F171=2201//1D 1F172=220C//1D 1F173=2216//1D 1F174=2224//1D 1F175=223B//1D
1F176=2244//1D 1F177=2253//1D 1F178=225F//1D 1F179=226C//1D 1F17A=2273//1D 1F17B=227E//1D
1F17C=229A//1D 1F17D=22A3//1D 1F17E=22B5//1D 1F17F=22D3//1D 1F180=22DF//1D 1F181=22E6//1D
1F182=2307//1D 1F183=231D//1D 1F184=232B//1D 1F185=2343//1D 1F186=234C//1D 1F187=2350//1D
1F188=2359//1D 1F189=2360//1D 1F18A=22D3//1D 1F18B=225F//1D+220C//1D 1F18C=22D3//1D+21F3//1D
1F18D=2307//1D+21F3//1D 1F18E=21F3//1D+2201//1D 1F18F=234C//1D+220C//1D 1F191=220C//1D+227E//1D
1F192=220C//1D+22B5//1D+22B5//1D+227E//1D 1F193=223B//1D+22E6//1D+2224//1D+2224//1D
1F194=225F//1D+2216//1D 1F195=22A3//1D+2224//1D+234C//1D 1F196=22A3//1D+2244//1D
1F197=22B5//1D+2273//1D 1F198=2307//1D+22B5//1D+2307//1D 1F199=232B//1D+22D3//1D+6C//1C
1F19A=2343//1D+2307//1D 1F19B=1FEF//1C+2216//1D
1F19C=1FEE//1C+22A3//1C+2216//1C+B//1C+2307//1D+220C//1C+22E6//1C 1F19D=1FEE//1C+2273//1D
1F19E=1FF0//1C+2273//1D 1F19F=1FF4//1C+2273//1D 1F1A0=1FF1//1C+85//1C+1FED//1C
1F1A1=1FF3//1C+85//1C+1FED//1C 1F1A2=1FEE//1C+1FEE//1C+85//1C+1FEE//1C
1F1A3=1FF2//1C+1FEC//1C+22D3//1D 1F1A4=1FED//1C+1FEE//1C+1FEC//1C+22D3//1D 1F1A5=2216//1C
1F1A6=2253//1D+220C//1C 1F1A7=2253//1D+2216//1C+22E6//1D
1F1A8=2253//1D+225F//1C+B//1C+22E6//1D+2224//1C+2307//1C
1F1A9=227E//1D+22B5//1C+2307//1C+2307//1C+227E//1C+2224//1C+2307//1C+2307//1C
1F1AA=2307//1D+2253//1D+2343//1D 1F1AB=232B//1D+2253//1D+2216//1D 1F1AC=2343//1D+22B5//1D+2216//1D
1F1AD=449 1F1E6-1F1FF=C76 1F260-1F265=1630 1F300-1F5FF=1636 1F600-1F6D8=1AAE 1F6DC-1F6EC=1B87
1F6F0-1F6FC=1B98 1F700-1F7D9=1BA5 1F7E0-1F7EB=1C7F 1F7F0=1C8B 1F800-1F80B=1C8C 1F810-1F847=1C98
1F850-1F859=1CD0 1F860-1F887=1CDA 1F890-1F8AD=1D02 1F8B0-1F8BB=1D20 1F8C0-1F8C1=1D2C
1F8D0-1F8D8=1D2E 1F900-1F9FF=1936 1FA00-1FA57=15C4 1FA60-1FA6D=161C 1FA70-1FA7C=1A36
1FA80-1FA8A=1A43 1FA8E-1FAC6=1A4E 1FAC8=1A87 1FACD-1FADC=1A88 1FADF-1FAEA=1A98 1FAEF-1FAF8=1AA4
1FB00-1FB92=A97 1FB94-1FBEF=B2A 1FBFA=B86 E0001= E0020-E007F= E0100-E01EF="

def weightSpans : Array (Span (List Element)) := Span.table Element.listOfText weightTable

/-- The weights that the table gives to a character. -/
def tableElements? (c : Char) : Option (List Element) :=
  (Span.find? weightSpans c.toNat).map fun span =>
    if span.first = c.toNat then span.value
    else span.value.map (·.moved (c.toNat - span.first))

/-- Where the characters begin that no table names. -/
def unnamed : Nat := 0x1000000000

/-- The weight of a character that the table does not name: its place among the ideographs, or that
of its code point. -/
def codeElement (c : Char) : Element :=
  ⟨(ideographPlace? c).getD (unnamed + c.toNat), 0x20, 2⟩

/-- The weights of a character that stands for no others. A capital weighs what its small letter
does, but for the third weight. -/
def letterElements (c : Char) : List Element :=
  if c.toNat < 0x80 then asciiElements c
  else
    match tableElements? c, small c with
    | some elements, _ => elements
    | none, [letter] =>
      if letter = c then [codeElement c]
      else
        match tableElements? letter with
        | some elements => elements.map Element.capital
        | none => [codeElement c]
    | none, _ => [codeElement c]

end Depot.Text.Collation
